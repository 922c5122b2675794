import Operly.Python.Datetime
import Operly.Workflow.Spec

/-! Schedules: what is accepted, and when a schedule fires next. -/

namespace Operly.Workflow
open Python

/-- A time zone of the zone database: its offset at an instant, and the offset that a wall clock
time is read with when it stands for two instants or for none. -/
structure Zone where
  offsetAt : Int → Int
  offsetOf : Int → Int

/-- `ZoneInfo(name)` -/
abbrev Zones := String → Option Zone

def utcZone : Zone := ⟨fun _ => 0, fun _ => 0⟩

structure Platform where
  spelling : Spelling
  zones : Zones

def checkedTime (time : Int) : Except WorkflowError Int :=
  if Time.inRange time then .ok time else .error .overflow

/-- `time.astimezone(zone)` -/
def Zone.local (zone : Zone) (time : Int) : Except WorkflowError Int :=
  checkedTime (time + zone.offsetAt time)

/-- `wall.astimezone(timezone.utc)` -/
def Zone.utc (zone : Zone) (wall : Int) : Except WorkflowError Int :=
  checkedTime (wall - zone.offsetOf wall)

def readIsoTime (text : String) (error : WorkflowError) : Except WorkflowError Int :=
  match fromisoformat (replaceChar 'Z' "+00:00" text) with
  | none => .error error
  | some (wall, offset) => checkedTime (wall - offset.getD 0)

def isoDatetime (platform : Platform) (value : Option Json) : Except WorkflowError Int :=
  let raw := strip (match value with
    | some value => if value.truthy then value.toStr platform.spelling else ""
    | none => "")
  if raw = "" then .error (.spec "Schedule date/time is required")
  else readIsoTime raw (.spec "Schedule date/time must be ISO 8601")

/-- `re.fullmatch(r"(?:[01]\d|2[0-3]):[0-5]\d", text)` -/
def isClock (text : String) : Bool :=
  match text.toList with
  | [a, b, c, d, e] =>
      ((a = '0' || a = '1') && (decimalValue b).isSome || a = '2' && ['0', '1', '2', '3'].contains b) &&
        c = ':' && ['0', '1', '2', '3', '4', '5'].contains d && (decimalValue e).isSome
  | _ => false

def clockText (platform : Platform) (value : Option Json) : Except WorkflowError String :=
  let raw := strip (match value with
    | some value => if value.truthy then value.toStr platform.spelling else ""
    | none => "")
  if isClock raw then .ok raw else .error (.spec "Schedule time must be HH:MM")

def cronFieldError : WorkflowError := .spec "Cron field must contain integers, ranges, *, or steps"

/-- `int(text)` inside `_cron_values` -/
def cronNumber (text : String) : Except WorkflowError Int :=
  match parseInt text with
  | some value => .ok value
  | none => .error cronFieldError

/-- The range of one segment. Its own spec errors are value errors too, and are reported as the
others are. -/
def cronSegment (minimum maximum : Int) (segment : String) : Except WorkflowError (List Int) := do
  let (base, step) ← if contains segment "/" then do
      let (base, rawStep) := splitOnce '/' segment
      let step ← cronNumber rawStep
      if step < 1 then throw cronFieldError
      pure (base, step)
    else pure (segment, 1)
  let (start, stop) ← if base = "*" then pure (minimum, maximum)
    else if contains base "-" then do
      let (rawStart, rawStop) := splitOnce '-' base
      let start ← cronNumber rawStart
      let stop ← cronNumber rawStop
      pure (start, stop)
    else do
      let only ← cronNumber base
      pure (only, only)
  if start < minimum ∨ maximum < stop ∨ stop < start then throw cronFieldError
  return (List.range ((stop - start) / step + 1).toNat).map fun n => start + n * step

def cronValues (token : String) (minimum maximum : Int) : Except WorkflowError (List Int) :=
  ((split ',' token).mapM (cronSegment minimum maximum)).map List.flatten

structure CronFields where
  minute : List Int
  hour : List Int
  day : List Int
  month : List Int
  weekday : List Int
  dayAny : Bool
  weekdayAny : Bool
  deriving DecidableEq

def parseCron (expression : String) : Except WorkflowError CronFields :=
  match words expression with
  | [minute, hour, day, month, weekday] => do
      let minutes ← cronValues minute 0 59
      let hours ← cronValues hour 0 23
      let days ← cronValues day 1 31
      let months ← cronValues month 1 12
      let weekdays ← cronValues weekday 0 7
      return { minute := minutes, hour := hours, day := days, month := months
               weekday := weekdays.map fun item => if item = 7 then 0 else item
               dayAny := day = "*", weekdayAny := weekday = "*" }
  | _ => .error (.spec "Cron expression must have 5 fields: minute hour day month weekday")

/-- `_cron_matches` for a wall clock time; cron counts the days of the week from Sunday. -/
def cronMatches (candidate : Int) (fields : CronFields) : Bool :=
  let date := Time.date candidate
  let dayMatch := fields.day.contains date.day
  let weekdayMatch := fields.weekday.contains (((Time.weekday candidate + 1) % 7 : Nat) : Int)
  fields.minute.contains (Time.minuteOf candidate) && fields.hour.contains (Time.hourOf candidate) &&
    fields.month.contains date.month &&
      (if !fields.dayAny && !fields.weekdayAny then dayMatch || weekdayMatch
      else dayMatch && weekdayMatch)

/-- `value in (None, {}, "")` -/
def isNoSchedule : Json → Bool
  | .null | .obj [] | .str "" => true
  | _ => false

/-- `int(day)` of a weekly schedule -/
def weekdayNumber (day : Json) : Except WorkflowError Int :=
  match day.toInt with
  | .ok day => .ok day
  | .error .overflowError => .error .overflow
  | .error _ => .error (.spec "Weekly days must be integers")

def weeklyDays : Option Json → Except WorkflowError (List Int)
  | some (.arr (day :: days)) => do
      let numbers ← (day :: days).mapM weekdayNumber
      let normalized := numbers.dedup.insertionSort (· ≤ ·)
      if normalized.any fun day => day < 0 || 6 < day then
        throw (.spec "Weekly days use 0=Monday through 6=Sunday")
      return normalized
  | _ => .error (.spec "Weekly schedule needs days")

def intervalSeconds (value : Fields) : Except WorkflowError Int := do
  let every ← match (Fields.getOr value "every_seconds" (.int 0)).toInt with
    | .ok every => .ok every
    | .error .overflowError => .error .overflow
    | .error _ => .error (.spec "Interval seconds must be an integer")
  if every < 60 ∨ 365 * 24 * 60 * 60 < every then
    .error (.spec "Interval must be between 60 seconds and one year")
  else .ok every

def scheduleDetails (platform : Platform) (scheduleType : String) (value : Fields) :
    Except WorkflowError Fields := do
  if scheduleType = "once" then
    let at' ← isoDatetime platform (Fields.get value "at")
    return [("at", .str (isoformat at'))]
  else if scheduleType = "interval" then
    let every ← intervalSeconds value
    if ((Fields.get value "start_at").getD .null).truthy then
      let start ← isoDatetime platform (Fields.get value "start_at")
      return [("every_seconds", .int every), ("start_at", .str (isoformat start))]
    else return [("every_seconds", .int every)]
  else if scheduleType = "daily" then
    let clock ← clockText platform (Fields.get value "time")
    return [("time", .str clock)]
  else if scheduleType = "weekly" then
    let days ← weeklyDays (Fields.get value "days")
    let clock ← clockText platform (Fields.get value "time")
    return [("days", .arr (days.map .int)), ("time", .str clock)]
  else if scheduleType = "cron" then
    let expression := strip (operand platform.spelling value "expression" "")
    let _ ← parseCron expression
    return [("expression", .str expression)]
  else .error (.spec "Schedule type must be once, interval, daily, weekly, cron, or manual")

def validateSchedule (platform : Platform) (value : Json) : Except WorkflowError (Option Fields) :=
  if isNoSchedule value then .ok none
  else match value with
    | .obj fields => do
        let scheduleType := lower (strip (operand platform.spelling fields "type" "manual"))
        if scheduleType = "manual" then return none
        let timezone := strip (operand platform.spelling fields "timezone" "UTC")
        if (platform.zones timezone).isNone then throw (.spec "Unknown schedule timezone")
        let details ← scheduleDetails platform scheduleType fields
        return some (("type", .str scheduleType) :: ("timezone", .str timezone) :: details)
    | _ => .error (.spec "Schedule must be an object")

def nextClockTime (zone : Zone) (days : List Int) (hour minute : Nat) (localAfter : Int) :
    Nat → Nat → Except WorkflowError (Option Int)
  | 0, _ => .ok none
  | remaining + 1, offset => do
      let shifted ← checkedTime (localAfter + offset * Time.day)
      let candidate := Time.ofParts (Time.date shifted) hour minute 0 0
      if days.contains (Time.weekday shifted) ∧ localAfter < candidate then
        (zone.utc candidate).map some
      else nextClockTime zone days hour minute localAfter remaining (offset + 1)

def nextCronTime (zone : Zone) (fields : CronFields) : Nat → Int → Except WorkflowError Int
  | 0, _ => .error (.spec "Cron schedule did not produce a time within one year")
  | remaining + 1, candidate =>
      if cronMatches candidate fields then zone.utc candidate
      else do
        let next ← checkedTime (candidate + Time.minute)
        nextCronTime zone fields remaining next

def cronMinutes : Nat := 527040

def nextInterval (every start after : Int) : Except WorkflowError Int :=
  if after < start then .ok start
  else
    let elapsed : Int := Time.wholeSeconds (after - start).toNat
    checkedTime (start + (elapsed / every + 1) * every * Time.second)

def clockNumbers (text : String) : Except WorkflowError (Nat × Nat) :=
  match (split ':' text).map parseInt with
  | [some hour, some minute] => .ok (hour.toNat, minute.toNat)
  | _ => .error (.value "invalid literal for int() with base 10")

def scheduleZone (platform : Platform) (schedule : Fields) : Except WorkflowError Zone :=
  match platform.zones (operand platform.spelling schedule "timezone" "UTC") with
  | some zone => .ok zone
  | none => .error (.other "No time zone found")

def scheduleDays (schedule : Fields) : List Int :=
  match Fields.getOr schedule "days" .null with
  | .arr days => days.filterMap fun day => day.toInt.toOption
  | _ => (List.range 7).map fun day => (day : Int)

/-- `next_schedule_time` of a schedule that is already normal. -/
def nextOccurrence (platform : Platform) (schedule : Fields) (after : Int) :
    Except WorkflowError (Option Int) := do
  let scheduleType := operand platform.spelling schedule "type" ""
  if scheduleType = "once" then
    let at' ← isoDatetime platform (Fields.get schedule "at")
    return if after < at' then some at' else none
  else if scheduleType = "interval" then
    let every ← match ((Fields.get schedule "every_seconds").getD .null).toInt with
      | .ok every => .ok every
      | .error failure => .error (.ofFailure failure)
    let start ← if ((Fields.get schedule "start_at").getD .null).truthy then
        isoDatetime platform (Fields.get schedule "start_at")
      else .ok after
    (nextInterval every start after).map some
  else
    let zone ← scheduleZone platform schedule
    let localAfter ← zone.local after
    if scheduleType = "daily" ∨ scheduleType = "weekly" then
      let (hour, minute) ← clockNumbers (((Fields.get schedule "time").getD .null).toStr platform.spelling)
      nextClockTime zone (scheduleDays schedule) hour minute localAfter 9 0
    else
      let fields ← parseCron (((Fields.get schedule "expression").getD .null).toStr platform.spelling)
      let candidate ← checkedTime (localAfter / Time.minute * Time.minute + Time.minute)
      (nextCronTime zone fields cronMinutes candidate).map some

def nextScheduleTime (platform : Platform) (schedule : Json) (after : Int) :
    Except WorkflowError (Option Int) := do
  match ← validateSchedule platform schedule with
  | none => return none
  | some schedule => nextOccurrence platform schedule after

end Operly.Workflow
