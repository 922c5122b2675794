import Mathlib.Data.List.Dedup
import Mathlib.Order.Bounds.Basic
import Operly.Python.IsoFormat
import Operly.Workflow.AcceptedSpec

/-! What an accepted schedule says, once its fields are read. -/

namespace Operly.Workflow
open Python

/-! ### Times that are written and read again -/

variable {time : Int} {c : Char}

theorem checkedTime_eq_ok {result : Int} : checkedTime time = .ok result ↔ Time.inRange time = true ∧ time = result := by
  unfold checkedTime
  split
  · next held => simp [held]
  · next fails => simp [fails]

theorem mem_isoChars (inRange : Time.inRange time = true) :
    ∀ c ∈ isoChars time, isAsciiDigit c = true ∨ c ∈ ['-', 'T', ':', '.'] := by
  simp only [Time.inRange, Bool.and_eq_true, decide_eq_true_eq] at inRange
  have bound : Time.days time < maxDays := by
    have late : time < (3652059 * 86400000000 : Int) := inRange.2
    simp only [Time.days, maxDays, Time.day, Time.hour, Time.minute, Time.second]
    omega
  have proper : (Time.date time).proper = true := Date.ofDays_proper bound
  simp only [Date.proper, Bool.and_eq_true, decide_eq_true_eq] at proper
  obtain ⟨⟨⟨⟨⟨_, year⟩, _⟩, month⟩, _⟩, last⟩ := proper
  have day : (Time.date time).day < 100 := by
    have longest : daysInMonth (isLeap (Time.date time).year) (Time.date time).month ≤ 31 := by
      unfold daysInMonth
      split <;> (try split) <;> omega
    omega
  have shape : isoChars time = (pad2 ((Time.date time).year / 100) ++ pad2 ((Time.date time).year % 100)) ++
      '-' :: (pad2 (Time.date time).month ++ '-' :: (pad2 (Time.date time).day ++ 'T' :: isoClock time)) := by
    simp [isoChars, isoClock, pad4]
  intro c member
  rw [shape] at member
  simp only [List.mem_append, List.mem_cons] at member
  rcases member with (known | known) | rfl | known | rfl | known | rfl | known
  · exact .inl (mem_pad2 (by omega) c known)
  · exact .inl (mem_pad2 (by omega) c known)
  · simp
  · exact .inl (mem_pad2 (by omega) c known)
  · simp
  · exact .inl (mem_pad2 day c known)
  · simp
  · rcases mem_isoClock c known with digit | rfl | rfl
    · exact .inl digit
    · simp
    · simp

theorem isSpace_digit (digit : isAsciiDigit c = true) : isSpace c = false := by
  simp only [isAsciiDigit, Bool.and_eq_true, decide_eq_true_eq] at digit
  simp only [isSpace, Unicode.within, Unicode.whitespace, List.any_eq_false, Bool.and_eq_true, decide_eq_true_eq,
    List.mem_cons, List.not_mem_nil, or_false]
  rintro range (rfl | rfl | rfl | rfl | rfl | rfl | rfl | rfl | rfl | rfl) <;> omega

theorem strip_of_solid {text : String} (solid : ∀ c ∈ text.toList, isSpace c = false) : strip text = text := by
  have same : stripChars text.toList = text.toList := stripChars_of_bare
    (fun c head => solid c (List.mem_of_mem_head? head)) (fun c last => solid c (List.mem_of_getLast? last))
  rw [strip, same, String.ofList_toList]

theorem isoformat_ne_empty (time : Int) : isoformat time ≠ "" := by
  intro empty
  have listed : (isoformat time).toList = isoChars time := String.toList_ofList
  have long : isoChars time = [] := by rw [← listed, empty]; rfl
  simp [isoChars, pad4, pad2] at long

/-- `_iso_datetime` reads back what `isoformat` wrote. -/
theorem isoDatetime_isoformat (platform : Platform) (inRange : Time.inRange time = true) :
    isoDatetime platform (some (.str (isoformat time))) = .ok time := by
  have chars := mem_isoChars inRange
  have listed : (isoformat time).toList = isoChars time := String.toList_ofList
  have written := isoformat_ne_empty time
  have trimmed : strip (isoformat time) = isoformat time := by
    apply strip_of_solid
    intro c member
    rw [listed] at member
    rcases chars c member with digit | mark
    · exact isSpace_digit digit
    · simp only [List.mem_cons, List.not_mem_nil, or_false] at mark
      rcases mark with rfl | rfl | rfl | rfl <;> decide
  have plain : replaceChar 'Z' "+00:00" (isoformat time) = isoformat time := by
    have kept : (isoformat time).toList.flatMap (fun d => if d = 'Z' then ("+00:00").toList else [d]) =
        (isoformat time).toList := by
      have each : ∀ d ∈ (isoformat time).toList, (if d = 'Z' then ("+00:00").toList else [d]) = [d] := by
        intro d member
        rw [listed] at member
        refine if_neg ?_
        rintro rfl
        exact absurd (chars 'Z' member) (by decide)
      rw [List.flatMap_congr each, List.flatMap_singleton']
    rw [replaceChar, kept, String.ofList_toList]
  have truthy : (Json.str (isoformat time)).truthy = true := by simpa [Json.truthy] using written
  rw [isoDatetime, if_pos truthy, Json.toStr, trimmed, if_neg written, readIsoTime, plain, fromisoformat_isoformat inRange]
  simp [checkedTime, inRange]

theorem isoDatetime_inRange {platform : Platform} {value : Option Json} (read : isoDatetime platform value = .ok time) :
    Time.inRange time = true := by
  unfold isoDatetime at read
  obtain ⟨-, rest⟩ := check_eq_ok.mp read
  unfold readIsoTime at rest
  split at rest
  · cases rest
  · obtain ⟨held, same⟩ := checkedTime_eq_ok.mp rest
    exact same ▸ held

inductive Recurrence where
  | once (at' : Int)
  | interval (every : Int) (start : Option Int)
  /-- Daily and weekly schedules: a time of day, on some days of the week. -/
  | clock (days : List Int) (hour minute : Nat)
  | cron (fields : CronFields)
  deriving DecidableEq

def everyDay : List Int := (List.range 7).map fun day => (day : Int)

inductive Recurrence.Said (platform : Platform) (fields : Fields) : String → Recurrence → Prop where
  | once {at' : Int} (read : isoDatetime platform (Fields.get fields "at") = .ok at') : Said platform fields "once" (.once at')
  | interval {every : Int} {start : Option Int} (read : intervalSeconds fields = .ok every)
      (from_ : match start with
        | some time => ((Fields.get fields "start_at").getD .null).truthy = true ∧
            isoDatetime platform (Fields.get fields "start_at") = .ok time
        | none => ((Fields.get fields "start_at").getD .null).truthy = false) :
      Said platform fields "interval" (.interval every start)
  | daily {clock : String} {hour minute : Nat} (read : clockText platform (Fields.get fields "time") = .ok clock)
      (numbers : clockNumbers clock = .ok (hour, minute)) : Said platform fields "daily" (.clock everyDay hour minute)
  | weekly {days : List Int} {clock : String} {hour minute : Nat} (named : weeklyDays (Fields.get fields "days") = .ok days)
      (read : clockText platform (Fields.get fields "time") = .ok clock)
      (numbers : clockNumbers clock = .ok (hour, minute)) : Said platform fields "weekly" (.clock days hour minute)
  | cron {parsed : CronFields}
      (read : parseCron (strip (operand platform.spelling fields "expression" "")) = .ok parsed) :
      Said platform fields "cron" (.cron parsed)

def Recurrence.next (zone : Except WorkflowError Zone) (after : Int) : Recurrence → Except WorkflowError (Option Int)
  | .once at' => .ok (if after < at' then some at' else none)
  | .interval every start => (nextInterval every (start.getD after) after).map some
  | .clock days hour minute => do
      let zone ← zone
      let localAfter ← zone.local after
      nextClockTime zone days hour minute localAfter 9 0
  | .cron fields => do
      let zone ← zone
      let localAfter ← zone.local after
      let candidate ← checkedTime (localAfter / Time.minute * Time.minute + Time.minute)
      (nextCronTime zone fields cronMinutes candidate).map some

/-! ### Clock texts -/

theorem decimalValue_small {value : Nat} (read : decimalValue c = some value) : value < 10 := by
  obtain ⟨range, -, rfl⟩ := Option.map_eq_some_iff.mp read
  exact Nat.mod_lt _ (by decide)

theorem decimalDigits_apart : ∀ range ∈ Unicode.decimalDigits, 47 < range.1 ∧ (range.2 < 58 ∨ 95 < range.1) ∧
    ∀ space ∈ Unicode.whitespace, range.2 < space.1 ∨ space.2 < range.1 := by
  decide

theorem decimalValue_solid {value : Nat} (read : decimalValue c = some value) :
    isSpace c = false ∧ c.toNat ≠ 58 ∧ c.toNat ≠ 45 ∧ c.toNat ≠ 43 ∧ c.toNat ≠ 95 := by
  obtain ⟨range, found, -⟩ := Option.map_eq_some_iff.mp read
  have within := List.find?_some found
  simp only [Bool.and_eq_true, decide_eq_true_eq] at within
  obtain ⟨above, ascii, spaces⟩ := decimalDigits_apart range (List.mem_of_find?_eq_some found)
  refine ⟨?_, by omega, by omega, by omega, by omega⟩
  simp only [isSpace, Unicode.within, List.any_eq_false, Bool.and_eq_true, decide_eq_true_eq]
  intro space member
  have apart := spaces space member
  omega

theorem parseInt_pair {first second : Char} {high low : Nat} (tens : decimalValue first = some high)
    (ones : decimalValue second = some low) :
    parseInt (String.ofList [first, second]) = some ((10 * high + low : Nat) : Int) := by
  obtain ⟨solid, -, minus, plus, -⟩ := decimalValue_solid tens
  obtain ⟨solid', -, -, -, separator⟩ := decimalValue_solid ones
  have bare : stripNumber [first, second] = [first, second] := by
    refine stripNumber_of_solid fun c member => ?_
    rcases List.mem_pair.mp member with rfl | rfl
    · exact solid
    · exact solid'
  have unsigned : ∀ d : Char, d.toNat = 45 ∨ d.toNat = 43 → first ≠ d := by
    rintro d sign rfl
    omega
  have digits : parseDigits [first, second] = some [high, low] := by
    have apart : second ≠ '_' := fun same => separator (by rw [same]; rfl)
    rw [parseDigits.eq_4 _ _ (by simp) (by rintro _ same; cases same; exact apart rfl)]
    simp [parseDigits, tens, ones]
  rw [parseInt, String.toList_ofList, bare]
  split
  next negative rest shape =>
    split at shape
    · next same => exact absurd (List.cons.inj same).1 (unsigned '-' (.inl rfl))
    · next same => exact absurd (List.cons.inj same).1 (unsigned '+' (.inr rfl))
    · cases shape
      rw [digits]
      simp [maxIntDigits]

theorem clockNumbers_pairs {a b d : Char} {first second third fourth : Nat} (tens : decimalValue a = some first)
    (ones : decimalValue b = some second) (tens' : decimalValue c = some third) (ones' : decimalValue d = some fourth) :
    clockNumbers (String.ofList [a, b, ':', c, d]) = .ok (10 * first + second, 10 * third + fourth) := by
  have apart : ∀ {e : Char} {value : Nat}, decimalValue e = some value → e ≠ ':' := by
    rintro e value read rfl
    exact (decimalValue_solid read).2.1 rfl
  have parts : split ':' (String.ofList [a, b, ':', c, d]) = [String.ofList [a, b], String.ofList [c, d]] := by
    rw [split, String.toList_ofList]
    simp [splitChars, apart tens, apart ones, apart tens', apart ones']
  rw [clockNumbers, parts, List.map_cons, List.map_cons, List.map_nil, parseInt_pair tens ones, parseInt_pair tens' ones']
  rfl

theorem clockNumbers_of_isClock {text : String} (clock : isClock text = true) :
    ∃ hour minute, clockNumbers text = .ok (hour, minute) ∧ hour < 24 ∧ minute < 60 := by
  have hours : ∀ c ∈ ['0', '1', '2'], decimalValue c = some (c.toNat - 48) := by decide
  have early : ∀ c ∈ ['0', '1', '2', '3'], decimalValue c = some (c.toNat - 48) ∧ c.toNat - 48 < 4 := by decide
  have minutes : ∀ c ∈ ['0', '1', '2', '3', '4', '5'], decimalValue c = some (c.toNat - 48) ∧ c.toNat - 48 < 6 := by
    decide
  unfold isClock at clock
  split at clock
  · next a b c d e shape =>
    simp only [Bool.and_eq_true, Bool.or_eq_true, decide_eq_true_eq, List.contains_iff_mem] at clock
    obtain ⟨⟨⟨hour, colon⟩, tens⟩, ones⟩ := clock
    obtain ⟨fourth, last⟩ := Option.isSome_iff_exists.mp ones
    have small := decimalValue_small last
    obtain ⟨third, bound⟩ := minutes d tens
    have whole : text = String.ofList [a, b, ':', d, e] := by rw [← colon, ← shape, String.ofList_toList]
    rcases hour with ⟨first, second⟩ | ⟨first, second⟩
    · obtain ⟨value, read⟩ := Option.isSome_iff_exists.mp second
      have digit := decimalValue_small read
      have ten : decimalValue a = some (a.toNat - 48) := hours a (by rcases first with rfl | rfl <;> simp)
      have low : a.toNat - 48 < 2 := by rcases first with rfl | rfl <;> decide
      exact ⟨_, _, whole ▸ clockNumbers_pairs ten read third last, by omega, by omega⟩
    · obtain ⟨read, digit⟩ := early b second
      have ten : decimalValue a = some 2 := first ▸ (by decide)
      exact ⟨_, _, whole ▸ clockNumbers_pairs ten read third last, by omega, by omega⟩
  · cases clock

theorem clockText_numbers {platform : Platform} {value : Option Json} {clock : String}
    (read : clockText platform value = .ok clock) :
    ∃ hour minute, clockNumbers clock = .ok (hour, minute) ∧ hour < 24 ∧ minute < 60 := by
  have clocked : isClock clock = true := by
    simp only [clockText] at read
    generalize strip _ = raw at read
    by_cases held : isClock raw = true
    · rw [if_pos held] at read
      exact Except.ok.inj read ▸ held
    · rw [if_neg held] at read
      cases read
  exact clockNumbers_of_isClock clocked

/-! ### Accepted schedules -/

section
variable {platform : Platform} {fields schedule : Fields}

def Recurrence.Proper : Recurrence → Prop
  | .once at' => Time.inRange at' = true
  | .interval every start => 60 ≤ every ∧ ∀ time, start = some time → Time.inRange time = true
  | .clock days hour minute => (∃ day ∈ days, 0 ≤ day ∧ day ≤ 6) ∧ hour < 24 ∧ minute < 60
  | .cron _ => True

theorem intervalSeconds_bounds {every : Int} (read : intervalSeconds fields = .ok every) : 60 ≤ every := by
  have bounded : ∀ number : Int, (if number < 60 ∨ 365 * 24 * 60 * 60 < number then
      .error (.spec "Interval must be between 60 seconds and one year") else .ok number : Except WorkflowError Int) =
        .ok every → 60 ≤ every := by
    intro number within
    obtain ⟨inside, same⟩ := check_eq_ok.mp within
    cases same
    omega
  unfold intervalSeconds at read
  cases number : (Fields.getOr fields "every_seconds" (.int 0)).toInt with
  | ok number' =>
    rw [number] at read
    exact bounded number' read
  | error failure =>
    rw [number] at read
    cases failure <;> cases read

theorem weeklyDays_spec {value : Option Json} {days : List Int} (read : weeklyDays value = .ok days) :
    days ≠ [] ∧ ∀ day ∈ days, 0 ≤ day ∧ day ≤ 6 := by
  unfold weeklyDays at read
  split at read
  · next first rest =>
    obtain ⟨numbers, mapped, checked⟩ := bind_eq_ok.mp read
    simp only [throw_bind, check_eq_ok] at checked
    obtain ⟨within, same⟩ := checked
    cases pure_eq_ok.mp same
    constructor
    · have lengths := (mapM_eq_ok mapped).length_eq
      cases numbers with
      | nil => cases lengths
      | cons number others =>
        intro empty
        have member : number ∈ (List.dedup (number :: others)).insertionSort (· ≤ ·) := by
          rw [List.mem_insertionSort, List.mem_dedup]
          exact List.mem_cons_self
        rw [empty] at member
        cases member
    · intro day member
      by_contra outside
      apply within
      rw [List.any_eq_true]
      refine ⟨day, member, ?_⟩
      simp only [Bool.or_eq_true, decide_eq_true_eq]
      omega
  · cases read

variable {scheduleType : String}

theorem Recurrence.Said.unique {first second : Recurrence} (said : Recurrence.Said platform fields scheduleType first)
    (other : Recurrence.Said platform fields scheduleType second) : first = second := by
  generalize named : scheduleType = name at other
  cases said with
  | once read =>
    cases other with
    | once read' =>
      rw [read] at read'
      cases read'
      rfl
    | _ => exact absurd named (by decide)
  | @interval every start read from_ =>
    cases other with
    | @interval every' start' read' from_' =>
      rw [read] at read'
      cases read'
      cases start with
      | none =>
        cases start' with
        | none => rfl
        | some time =>
          rw [from_] at from_'
          cases from_'.1
      | some time =>
        cases start' with
        | none =>
          rw [from_.1] at from_'
          cases from_'
        | some time' =>
          have same := from_.2.symm.trans from_'.2
          cases same
          rfl
    | _ => exact absurd named (by decide)
  | daily read numbers =>
    cases other with
    | daily read' numbers' =>
      rw [read] at read'
      cases read'
      rw [numbers] at numbers'
      cases numbers'
      rfl
    | _ => exact absurd named (by decide)
  | weekly days read numbers =>
    cases other with
    | weekly days' read' numbers' =>
      rw [days] at days'
      cases days'
      rw [read] at read'
      cases read'
      rw [numbers] at numbers'
      cases numbers'
      rfl
    | _ => exact absurd named (by decide)
  | cron read =>
    cases other with
    | cron read' =>
      rw [read] at read'
      cases read'
      rfl
    | _ => exact absurd named (by decide)

theorem Recurrence.Said.proper {recurrence : Recurrence}
    (said : Recurrence.Said platform fields scheduleType recurrence) : recurrence.Proper := by
  cases said with
  | once read => exact isoDatetime_inRange read
  | interval read from_ =>
    refine ⟨intervalSeconds_bounds read, ?_⟩
    rintro time rfl
    exact isoDatetime_inRange from_.2
  | daily read numbers =>
    obtain ⟨hour, minute, known, bounds⟩ := clockText_numbers read
    rw [known] at numbers
    cases numbers
    exact ⟨⟨0, by decide, by decide, by decide⟩, bounds⟩
  | weekly named read numbers =>
    obtain ⟨hour, minute, known, bounds⟩ := clockText_numbers read
    rw [known] at numbers
    cases numbers
    obtain ⟨some, each⟩ := weeklyDays_spec named
    obtain ⟨day, member⟩ := List.exists_mem_of_ne_nil _ some
    exact ⟨⟨day, member, each day member⟩, bounds⟩
  | cron _ => trivial

def zoneName (platform : Platform) (fields : Fields) : String :=
  strip (operand platform.spelling fields "timezone" "UTC")

def storedZone (platform : Platform) (fields : Fields) : Except WorkflowError Zone :=
  match platform.zones (if zoneName platform fields = "" then "UTC" else zoneName platform fields) with
  | some zone => .ok zone
  | none => .error (.other "No time zone found")

theorem operand_text {spelling : Spelling} {key default text : String} (held : Fields.get fields key = some (.str text)) :
    operand spelling fields key default = if text = "" then default else text := by
  split
  · next blank =>
    subst blank
    rw [operand, Fields.getOr, held]
    rfl
  · next written => exact operand_held held written

theorem days_read (days : List Int) : days.filterMap (fun day => (Json.int day).toInt.toOption) = days := by
  induction days with
  | nil => rfl
  | cons day rest ih => rw [List.filterMap_cons_some (by rfl), ih]

theorem scheduleDetails_said {timezone : String} {details : Fields}
    (accepted : scheduleDetails platform scheduleType fields = .ok details)
    (stored : schedule = ("type", .str scheduleType) :: ("timezone", .str timezone) :: details) :
    ∃ recurrence, Recurrence.Said platform fields scheduleType recurrence ∧
      ∀ after, nextOccurrence platform schedule after = recurrence.next (scheduleZone platform schedule) after := by
  have named : ∀ name, scheduleType = name → name ≠ "" → operand platform.spelling schedule "type" "" = name := by
    rintro name rfl written
    exact operand_held (by rw [stored, Fields.get_cons, if_pos rfl]) written
  unfold scheduleDetails at accepted
  split at accepted
  · next once =>
    obtain ⟨at', read, same⟩ := bind_eq_ok.mp accepted
    cases pure_eq_ok.mp same
    subst once
    refine ⟨.once at', .once read, ?_⟩
    intro after
    have held : Fields.get schedule "at" = some (.str (isoformat at')) := by rw [stored]; rfl
    rw [nextOccurrence, named _ rfl (by decide), held, isoDatetime_isoformat platform (isoDatetime_inRange read)]
    rfl
  · split at accepted
    · next interval =>
      obtain ⟨every, read, rest⟩ := bind_eq_ok.mp accepted
      subst interval
      split at rest
      · next begins =>
        obtain ⟨start, started, same⟩ := bind_eq_ok.mp rest
        cases pure_eq_ok.mp same
        refine ⟨.interval every (some start), .interval read ⟨begins, started⟩, ?_⟩
        intro after
        have period : Fields.get schedule "every_seconds" = some (.int every) := by rw [stored]; rfl
        have held : Fields.get schedule "start_at" = some (.str (isoformat start)) := by rw [stored]; rfl
        have inRange := isoDatetime_inRange started
        have truthy : (Json.str (isoformat start)).truthy = true := by
          have written := isoformat_ne_empty start
          simpa [Json.truthy] using written
        rw [nextOccurrence, named _ rfl (by decide), if_neg (by decide), if_pos rfl, period, held]
        simp only [Option.getD_some, Json.toInt, truthy, if_true, isoDatetime_isoformat platform inRange]
        rfl
      · next absent =>
        cases pure_eq_ok.mp rest
        refine ⟨.interval every none, .interval read (by simpa using absent), ?_⟩
        intro after
        have period : Fields.get schedule "every_seconds" = some (.int every) := by rw [stored]; rfl
        have held : Fields.get schedule "start_at" = none := by rw [stored]; rfl
        rw [nextOccurrence, named _ rfl (by decide), if_neg (by decide), if_pos rfl, period, held]
        rfl
    · split at accepted
      · next daily =>
        obtain ⟨clock, read, same⟩ := bind_eq_ok.mp accepted
        cases pure_eq_ok.mp same
        subst daily
        obtain ⟨hour, minute, numbers, -⟩ := clockText_numbers read
        refine ⟨.clock everyDay hour minute, .daily read numbers, ?_⟩
        intro after
        have held : Fields.get schedule "time" = some (.str clock) := by rw [stored]; rfl
        have days : scheduleDays schedule = everyDay := by rw [stored]; rfl
        rw [nextOccurrence, named _ rfl (by decide), if_neg (by decide), if_neg (by decide), held, days]
        simp only [Option.getD_some, Json.toStr, numbers]
        rfl
      · split at accepted
        · next weekly =>
          obtain ⟨days, known, rest⟩ := bind_eq_ok.mp accepted
          obtain ⟨clock, read, same⟩ := bind_eq_ok.mp rest
          cases pure_eq_ok.mp same
          subst weekly
          obtain ⟨hour, minute, numbers, -⟩ := clockText_numbers read
          refine ⟨.clock days hour minute, .weekly known read numbers, ?_⟩
          intro after
          have held : Fields.get schedule "time" = some (.str clock) := by rw [stored]; rfl
          have listed : scheduleDays schedule = days := by
            have list : Fields.getOr schedule "days" .null = .arr (days.map .int) := by
              have own : Fields.get schedule "days" = some (.arr (days.map .int)) := by rw [stored]; rfl
              obtain ⟨some, -⟩ := weeklyDays_spec known
              have truthy : (Json.arr (days.map .int)).truthy = true := by simpa [Json.truthy] using some
              rw [Fields.getOr, own]
              exact if_pos truthy
            rw [scheduleDays, list]
            dsimp only
            rw [List.filterMap_map]
            exact days_read days
          rw [nextOccurrence, named _ rfl (by decide), if_neg (by decide), if_neg (by decide), held, listed]
          simp only [Option.getD_some, Json.toStr, numbers]
          rfl
        · split at accepted
          · next cron =>
            obtain ⟨parsed, read, same⟩ := bind_eq_ok.mp accepted
            cases pure_eq_ok.mp same
            subst cron
            refine ⟨.cron parsed, .cron read, ?_⟩
            intro after
            have held : Fields.get schedule "expression" =
                some (.str (strip (operand platform.spelling fields "expression" ""))) := by rw [stored]; rfl
            rw [nextOccurrence, named _ rfl (by decide), if_neg (by decide), if_neg (by decide), held]
            simp only [Option.getD_some, Json.toStr, read]
            rfl
          · cases accepted

theorem validateSchedule_said {value : Json} (accepted : validateSchedule platform value = .ok (some schedule)) :
    ∃ fields recurrence, value = .obj fields ∧
      Recurrence.Said platform fields (lower (strip (operand platform.spelling fields "type" "manual"))) recurrence ∧
      ∀ after, nextScheduleTime platform value after = recurrence.next (storedZone platform fields) after := by
  have whole : ∀ after, nextScheduleTime platform value after = nextOccurrence platform schedule after := by
    intro after
    rw [nextScheduleTime, accepted]
    rfl
  unfold validateSchedule at accepted
  split at accepted
  · cases accepted
  · split at accepted
    · next fields _ =>
      dsimp only at accepted
      split at accepted
      · cases accepted
      · simp only [throw_bind, check_eq_ok, bind_eq_ok] at accepted
        obtain ⟨-, details, valid, same⟩ := accepted
        have stored := (Option.some.inj (pure_eq_ok.mp same)).symm
        obtain ⟨recurrence, said, next⟩ := scheduleDetails_said valid stored
        have zone : scheduleZone platform schedule = storedZone platform fields := by
          have held : Fields.get schedule "timezone" = some (.str (zoneName platform fields)) := by rw [stored]; rfl
          rw [scheduleZone, operand_text held]
          rfl
        refine ⟨fields, recurrence, rfl, said, ?_⟩
        intro after
        rw [whole, next, zone]
    · cases accepted

end

end Operly.Workflow
