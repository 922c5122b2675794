import Mathlib.Algebra.Group.Nat.Defs
import Operly.Python.Text

/-! Naive datetimes as microseconds since the start of year 1, and their ISO 8601 texts. -/

namespace Python

namespace Time

def second : Int := 1000000
def minute : Int := 60 * second
def hour : Int := 60 * minute
def day : Int := 24 * hour

end Time

/-! ### The calendar -/

def isLeap (year : Nat) : Bool := year % 4 = 0 && (year % 100 ≠ 0 || year % 400 = 0)

def daysBeforeYear (year : Nat) : Nat :=
  (year - 1) * 365 + (year - 1) / 4 - (year - 1) / 100 + (year - 1) / 400

def daysInMonth (leap : Bool) : Nat → Nat
  | 2 => if leap then 29 else 28
  | 4 | 6 | 9 | 11 => 30
  | _ => 31

def daysBeforeMonth (leap : Bool) : Nat → Nat
  | 0 | 1 => 0
  | month + 1 => daysBeforeMonth leap month + daysInMonth leap month

structure Date where
  year : Nat
  month : Nat
  day : Nat
  deriving DecidableEq

namespace Date

def days (date : Date) : Nat :=
  daysBeforeYear date.year + daysBeforeMonth (isLeap date.year) date.month + (date.day - 1)

def proper (date : Date) : Bool :=
  1 ≤ date.year && date.year ≤ 9999 && 1 ≤ date.month && date.month ≤ 12 && 1 ≤ date.day &&
    date.day ≤ daysInMonth (isLeap date.year) date.month

end Date

def yearOf (days : Nat) : Nat :=
  let guess := days * 400 / 146097 + 1
  if daysBeforeYear (guess + 1) ≤ days then guess + 1
  else if daysBeforeYear guess ≤ days then guess else guess - 1

def monthOf (leap : Bool) (dayOfYear : Nat) : Nat :=
  ((List.range' 1 12).filter fun month => daysBeforeMonth leap month ≤ dayOfYear).length

def Date.ofDays (days : Nat) : Date :=
  let year := yearOf days
  let dayOfYear := days - daysBeforeYear year
  let month := monthOf (isLeap year) dayOfYear
  ⟨year, month, dayOfYear - daysBeforeMonth (isLeap year) month + 1⟩

theorem yearOf_spec (days : Nat) :
    1 ≤ yearOf days ∧ daysBeforeYear (yearOf days) ≤ days ∧
      days < daysBeforeYear (yearOf days + 1) := by
  unfold yearOf
  simp only []
  split
  · refine ⟨by omega, by assumption, ?_⟩
    simp only [daysBeforeYear] at *
    omega
  · split
    · refine ⟨by omega, by assumption, ?_⟩
      simp only [daysBeforeYear] at *
      omega
    · simp only [daysBeforeYear] at *
      omega

theorem daysBeforeYear_succ {year : Nat} (positive : 1 ≤ year) :
    daysBeforeYear (year + 1) = daysBeforeYear year + if isLeap year then 366 else 365 := by
  have before : daysBeforeYear (year + 1) =
      year * 365 + year / 4 - year / 100 + year / 400 := by simp [daysBeforeYear]
  have leap : isLeap year = true ↔ year % 4 = 0 ∧ (year % 100 ≠ 0 ∨ year % 400 = 0) := by
    simp [isLeap]
  rw [before]
  unfold daysBeforeYear
  by_cases known : isLeap year = true
  · have := leap.mp known
    rw [if_pos known]
    omega
  · have := mt leap.mpr known
    rw [if_neg known]
    omega

theorem monthOf_spec : ∀ leap : Bool, ∀ dayOfYear < if leap then 366 else 365,
    1 ≤ monthOf leap dayOfYear ∧ monthOf leap dayOfYear ≤ 12 ∧
      daysBeforeMonth leap (monthOf leap dayOfYear) ≤ dayOfYear ∧
      dayOfYear < daysBeforeMonth leap (monthOf leap dayOfYear) +
        daysInMonth leap (monthOf leap dayOfYear) := by
  decide +kernel

theorem Date.ofDays_spec (days : Nat) : let date := Date.ofDays days
    date.days = days ∧ 1 ≤ date.year ∧ 1 ≤ date.month ∧ date.month ≤ 12 ∧ 1 ≤ date.day ∧
      date.day ≤ daysInMonth (isLeap date.year) date.month := by
  obtain ⟨positive, above, below⟩ := yearOf_spec days
  rw [daysBeforeYear_succ positive] at below
  obtain ⟨first, last, start, stop⟩ := monthOf_spec (isLeap (yearOf days))
    (days - daysBeforeYear (yearOf days)) (by omega)
  simp only [Date.ofDays, Date.days]
  exact ⟨by omega, positive, first, last, by omega, by omega⟩

def maxDays : Nat := 3652059

theorem Date.ofDays_proper {days : Nat} (bound : days < maxDays) : (Date.ofDays days).proper = true := by
  obtain ⟨_, positive, first, last, start, stop⟩ := Date.ofDays_spec days
  have year : (Date.ofDays days).year ≤ 9999 := by
    have above := (yearOf_spec days).2.1
    have late : 9999 < yearOf days → maxDays ≤ daysBeforeYear (yearOf days) := by
      intro late
      simp only [daysBeforeYear, maxDays]
      omega
    show yearOf days ≤ 9999
    by_contra beyond
    have := late (by omega)
    omega
  simp only [Date.proper, Bool.and_eq_true, decide_eq_true_eq]
  exact ⟨⟨⟨⟨⟨positive, year⟩, first⟩, last⟩, start⟩, stop⟩

namespace Time

def limit : Int := maxDays * day

/-- Arithmetic that leaves the years 1 to 9999 raises `OverflowError`. -/
def inRange (time : Int) : Bool := 0 ≤ time && time < limit

/-- `int(delta.total_seconds())` of a delta that is not negative. The quotient is a float: from
2^34 seconds on, the nearest one may be the next whole number. -/
def wholeSeconds (delta : Nat) : Nat :=
  let scale := 2 ^ (52 - Nat.log2 (delta / 1000000))
  let quotient := delta * scale / 1000000
  let rest := delta * scale % 1000000
  let rounded := if 2 * rest < 1000000 ∨ (2 * rest = 1000000 ∧ quotient % 2 = 0) then quotient
    else quotient + 1
  rounded / scale

def days (time : Int) : Nat := (time / day).toNat

def date (time : Int) : Date := Date.ofDays (days time)

def weekday (time : Int) : Nat := days time % 7

def timeOfDay (time : Int) : Nat := (time % day).toNat

def hourOf (time : Int) : Nat := timeOfDay time / 3600000000
def minuteOf (time : Int) : Nat := timeOfDay time / 60000000 % 60
def secondOf (time : Int) : Nat := timeOfDay time / 1000000 % 60
def microsecondOf (time : Int) : Nat := timeOfDay time % 1000000

def ofParts (date : Date) (hours minutes seconds microseconds : Nat) : Int :=
  date.days * day + (hours * hour + minutes * minute + seconds * second + microseconds)

theorem ofParts_date {time : Int} (positive : (0 : Int) ≤ time) :
    ofParts (date time) (hourOf time) (minuteOf time) (secondOf time) (microsecondOf time) = time := by
  have known : (date time).days = days time := (Date.ofDays_spec (days time)).1
  have split : (days time : Int) * day + timeOfDay time = time := by
    simp only [days, timeOfDay, day, hour, minute, second]
    omega
  have parts : (hourOf time * hour + minuteOf time * minute + secondOf time * second +
      microsecondOf time : Int) = timeOfDay time := by
    simp only [hourOf, minuteOf, secondOf, microsecondOf, hour, minute, second]
    omega
  rw [ofParts, known, parts, split]

end Time

/-! ### ISO 8601 texts -/

def digitChar (n : Nat) : Char := Char.ofNat (48 + n)

def pad2 (n : Nat) : List Char := [digitChar (n / 10), digitChar (n % 10)]

def pad4 (n : Nat) : List Char := pad2 (n / 100) ++ pad2 (n % 100)

def pad6 (n : Nat) : List Char := pad2 (n / 10000) ++ pad4 (n % 10000)

def isoChars (time : Int) : List Char :=
  pad4 (Time.date time).year ++ '-' :: pad2 (Time.date time).month ++ '-' :: pad2 (Time.date time).day ++ 'T' ::
    pad2 (Time.hourOf time) ++ ':' :: pad2 (Time.minuteOf time) ++ ':' :: pad2 (Time.secondOf time) ++
    if Time.microsecondOf time = 0 then [] else '.' :: pad6 (Time.microsecondOf time)

/-- `datetime.isoformat()` -/
def isoformat (time : Int) : String := String.ofList (isoChars time)

def isAsciiDigit (c : Char) : Bool := 48 ≤ c.toNat && c.toNat ≤ 57

/-- `int(text)` of a text that must consist of ASCII digits. -/
def number (text : List Char) : Option Nat :=
  if text ≠ [] ∧ text.all isAsciiDigit then
    some (text.foldl (fun total c => 10 * total + (c.toNat - 48)) 0)
  else none

def separatorAt (text : List Char) : Option Nat :=
  if text.length = 7 then some 7
  else if text[4]? = some '-' then
    if text[5]? = some 'W' then
      if text[8]? = some '-' then
        if text.length = 9 then none
        else if (text[10]?.map isAsciiDigit).getD false then some 8 else some 10
      else some 8
    else some 10
  else if text[4]? = some 'W' then
    let stop := 7 + ((text.drop 7).takeWhile isAsciiDigit).length
    if stop < 9 then some stop else if stop % 2 = 0 then some 7 else some 8
  else some 8

def isoWeekDate (year week dayNumber : Nat) : Option Date :=
  if year < 1 ∨ 9999 < year then none
  else
    let firstWeekday := daysBeforeYear year % 7
    let long := firstWeekday = 3 ∨ (firstWeekday = 2 ∧ isLeap year)
    if week < 1 ∨ 53 < week ∨ (week = 53 ∧ ¬long) ∨ dayNumber < 1 ∨ 7 < dayNumber then none
    else
      -- the first week holds January 4th
      let offset := 7 * (week - 1) + (dayNumber - 1)
      let start := daysBeforeYear year + (if firstWeekday ≤ 3 then 7 else 14)
      let total := start + offset - firstWeekday - 7
      if start + offset < firstWeekday + 7 ∨ maxDays ≤ total then none
      else some (Date.ofDays total)

def parseIsoDate (text : List Char) : Option Date := do
  let year ← number (text.take 4)
  let dashed := text[4]? = some '-'
  let rest := if dashed then text.drop 5 else text.drop 4
  match rest with
  | 'W' :: rest =>
      let week ← number (rest.take 2)
      match rest.drop 2 with
      | [] => isoWeekDate year week 1
      | '-' :: rest => if dashed then number rest >>= isoWeekDate year week else none
      | rest => if dashed then none else number rest >>= isoWeekDate year week
  | rest =>
      let month ← number (rest.take 2)
      let date ← match rest.drop 2 with
        | '-' :: rest => if dashed then (number rest).map (Date.mk year month) else none
        | rest => if dashed then none else (number rest).map (Date.mk year month)
      if date.proper then some date else none

structure Clock where
  hours : Nat
  minutes : Nat := 0
  seconds : Nat := 0
  microseconds : Nat := 0
  deriving DecidableEq

/-- A clock time as far as it is read, and whether characters are left over behind it. -/
def parseFraction (clock : Clock) (text : List Char) : Option (Clock × Bool) :=
  let known := text.take 6
  (number known).map fun value =>
    ({ clock with microseconds := value * 10 ^ (6 - known.length) }, !(text.drop 6).all isAsciiDigit)

/-- What follows a component of a clock time. A single character that follows is passed by, whatever it is. -/
def parseRest (colons : Bool) (clock : Clock) (next : List Char → Option (Clock × Bool)) : List Char → Option (Clock × Bool)
  | [] => some (clock, false)
  | [c] => if c.toNat < 128 then some (clock, true) else none
  | c :: rest =>
      if colons && c = ':' then next rest
      else if c = '.' ∨ c = ',' then parseFraction clock rest
      else if colons then none
      else next (c :: rest)

def parsePair (text : List Char) (next : Nat → List Char → Option (Clock × Bool)) : Option (Clock × Bool) :=
  if text.length < 2 then none else (number (text.take 2)).bind fun value => next value (text.drop 2)

/-- `HH[:?MM[:?SS[:?f+]]]`, with a colon before every component or before none; a point may take the place of any. -/
def parseClock (text : List Char) : Option (Clock × Bool) :=
  let colons := text[2]? = some ':'
  parsePair text fun hours => parseRest colons ⟨hours, 0, 0, 0⟩ fun rest =>
    parsePair rest fun minutes => parseRest colons ⟨hours, minutes, 0, 0⟩ fun rest =>
      parsePair rest fun seconds =>
        parseRest colons ⟨hours, minutes, seconds, 0⟩ (parseFraction ⟨hours, minutes, seconds, 0⟩)

namespace Clock

def total (clock : Clock) : Int :=
  clock.hours * Time.hour + clock.minutes * Time.minute + clock.seconds * Time.second +
    clock.microseconds

def proper (clock : Clock) : Bool := clock.hours < 24 && clock.minutes < 60 && clock.seconds < 60

end Clock

/-- A UTC offset: `none` when malformed or a day long. A fraction counts only beside a whole second. -/
def parseOffset (negative : Bool) (text : List Char) : Option Int := do
  let (clock, more) ← parseClock text
  if more ∨ Time.day ≤ clock.total then none
  else if clock.total < Time.second then some 0
  else some (if negative then -clock.total else clock.total)

def isZoneMark (c : Char) : Bool := c = '+' || c = '-' || c = 'Z'

/-- Before a zone, what is left over of the clock time is passed by. -/
def parseIsoTime (text : List Char) : Option (Clock × Option Int) := do
  let wall := text.takeWhile fun c => !isZoneMark c
  let (clock, more) ← parseClock wall
  match text.drop wall.length with
  | [] => if more then none else some (clock, none)
  | 'Z' :: rest => if rest = [] then some (clock, some 0) else none
  | sign :: rest => (parseOffset (sign = '-') rest).map fun offset => (clock, some offset)

/-- `datetime.fromisoformat(text)`: the wall clock and the offset; `none` is `ValueError`. -/
def fromIsoChars (text : List Char) : Option (Int × Option Int) :=
  if text.length < 7 then none
  else do
    let separator ← separatorAt text
    let date ← parseIsoDate (text.take separator)
    if text.length ≤ separator then some (Time.ofParts date 0 0 0 0, none)
    else
      let (clock, offset) ← parseIsoTime (text.drop (separator + 1))
      if clock.proper then
        some (Time.ofParts date clock.hours clock.minutes clock.seconds clock.microseconds, offset)
      else none

def fromisoformat (text : String) : Option (Int × Option Int) := fromIsoChars text.toList

example : (fromisoformat "2024-02-29T12:30+02:00").map (fun read => isoformat (read.1 - read.2.getD 0)) =
    some "2024-02-29T10:30:00" := by decide
example : (fromisoformat "2020W537").map (fun read => isoformat read.1) = some "2021-01-03T00:00:00" := by
  decide
example : fromisoformat "2023-02-29" = none := by decide

end Python
