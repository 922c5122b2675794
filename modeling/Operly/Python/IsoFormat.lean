import Operly.Python.Datetime

/-! `fromisoformat` reads back what `isoformat` writes. -/

namespace Python

variable {n m : Nat} {c : Char} {time : Int}

theorem toNat_digitChar (small : n < 10) : (digitChar n).toNat = 48 + n := by
  have every : ∀ digit < 10, (digitChar digit).toNat = 48 + digit := by decide
  exact every n small

theorem isAsciiDigit_digitChar (small : n < 10) : isAsciiDigit (digitChar n) = true := by
  simp only [isAsciiDigit, toNat_digitChar small, Bool.and_eq_true, decide_eq_true_eq]
  omega

theorem digitChar_ne (small : n < 10) (other : isAsciiDigit c = false) : digitChar n ≠ c := by
  rintro rfl
  rw [isAsciiDigit_digitChar small] at other
  cases other

theorem number_pad2 (small : n < 100) : number (pad2 n) = some n := by
  have tens : n / 10 < 10 := by omega
  have ones : n % 10 < 10 := by omega
  simp only [number, pad2, ne_eq, reduceCtorEq, not_false_eq_true, List.all_cons, List.all_nil,
    isAsciiDigit_digitChar tens, isAsciiDigit_digitChar ones, Bool.and_self, and_self, ↓reduceIte,
    List.foldl_cons, List.foldl_nil, toNat_digitChar tens, toNat_digitChar ones, Option.some.injEq]
  omega

theorem number_append {first second : List Char} {high low : Nat} (width : second.length = 2)
    (known : number first = some high) (known' : number second = some low) :
    number (first ++ second) = some (100 * high + low) := by
  unfold number at *
  split at known
  · split at known'
    · next left right =>
      rw [if_pos ⟨by simp [left.1], by simp [left.2, right.2]⟩]
      simp only [Option.some.injEq] at known known' ⊢
      obtain ⟨c, d, rfl⟩ := List.length_eq_two.mp width
      simp only [List.foldl_append, known, List.foldl_cons, List.foldl_nil] at known' ⊢
      omega
    · cases known'
  · cases known

theorem number_pad4 (small : n < 10000) : number (pad4 n) = some n := by
  have joined : number (pad2 (n / 100) ++ pad2 (n % 100)) = some (100 * (n / 100) + n % 100) :=
    number_append rfl (number_pad2 (by omega)) (number_pad2 (by omega))
  rw [pad4, joined]
  congr 1
  omega

theorem parseFraction_pad6 (clock : Clock) (small : n < 1000000) :
    parseFraction clock (pad6 n) = some ({ clock with microseconds := n }, false) := by
  have high : number (pad2 (n / 10000) ++ pad2 (n % 10000 / 100)) =
      some (100 * (n / 10000) + n % 10000 / 100) :=
    number_append rfl (number_pad2 (by omega)) (number_pad2 (by omega))
  have last : number (pad2 (n % 10000 % 100)) = some (n % 10000 % 100) := number_pad2 (by omega)
  have whole := number_append rfl high last
  have shape : pad6 n = pad2 (n / 10000) ++ pad2 (n % 10000 / 100) ++ pad2 (n % 10000 % 100) := by
    simp [pad6, pad4]
  have value : 100 * (100 * (n / 10000) + n % 10000 / 100) + n % 10000 % 100 = n := by omega
  have read : number (pad6 n) = some n := by rw [shape, whole, value]
  have taken : (pad6 n).take 6 = pad6 n := by simp [pad6, pad4, pad2]
  have dropped : (pad6 n).drop 6 = [] := by simp [pad6, pad4, pad2]
  have width : (pad6 n).length = 6 := by simp [pad6, pad4, pad2]
  simp only [parseFraction, taken, dropped, width, read, Option.map_some, Nat.sub_self, Nat.pow_zero, Nat.mul_one,
    List.all_nil, Bool.not_true]

theorem parsePair_pad2 (small : n < 100) (rest : List Char) (next : Nat → List Char → Option (Clock × Bool)) :
    parsePair (pad2 n ++ rest) next = next n rest := by
  have read := number_pad2 small
  have taken : (pad2 n ++ rest).take 2 = pad2 n := List.take_left' rfl
  have dropped : (pad2 n ++ rest).drop 2 = rest := List.drop_left' rfl
  have long : ¬(pad2 n ++ rest).length < 2 := by simp [pad2]
  rw [parsePair, if_neg long, taken, dropped, read, Option.bind_some]

theorem parseClock_iso {hours minutes seconds : Nat} (h : hours < 100) (m : minutes < 100)
    (s : seconds < 100) (tail : List Char) :
    parseClock (pad2 hours ++ ':' :: (pad2 minutes ++ ':' :: (pad2 seconds ++ tail))) =
      parseRest true ⟨hours, minutes, seconds, 0⟩ (parseFraction ⟨hours, minutes, seconds, 0⟩) tail := by
  have colon : (pad2 hours ++ ':' :: (pad2 minutes ++ ':' :: (pad2 seconds ++ tail)))[2]? = some ':' := rfl
  have continued : ∀ (clock : Clock) next {n : Nat} (rest : List Char),
      parseRest true clock next (':' :: (pad2 n ++ rest)) = next (pad2 n ++ rest) := fun _ _ _ _ => rfl
  rw [parseClock, colon, parsePair_pad2 h, decide_eq_true rfl, continued, parsePair_pad2 m, continued, parsePair_pad2 s]

def isoClock (time : Int) : List Char :=
  pad2 (Time.hourOf time) ++ ':' :: pad2 (Time.minuteOf time) ++ ':' :: pad2 (Time.secondOf time) ++
    if Time.microsecondOf time = 0 then [] else '.' :: pad6 (Time.microsecondOf time)

theorem mem_pad2 (small : n < 100) : ∀ c ∈ pad2 n, isAsciiDigit c = true := by
  intro c member
  simp only [pad2, List.mem_cons, List.not_mem_nil, or_false] at member
  rcases member with rfl | rfl <;> exact isAsciiDigit_digitChar (by omega)

theorem mem_isoClock : ∀ c ∈ isoClock time, isAsciiDigit c = true ∨ c = ':' ∨ c = '.' := by
  have hours : Time.hourOf time < 100 := by
    simp only [Time.hourOf, Time.timeOfDay, Time.day, Time.hour, Time.minute, Time.second]
    omega
  have minutes : Time.minuteOf time < 100 := by simp only [Time.minuteOf]; omega
  have seconds : Time.secondOf time < 100 := by simp only [Time.secondOf]; omega
  have micros : Time.microsecondOf time < 1000000 := Nat.mod_lt _ (by decide)
  intro c member
  simp only [isoClock, List.cons_append, List.append_assoc, List.mem_append, List.mem_cons] at member
  rcases member with known | rfl | known | rfl | known | known
  · exact .inl (mem_pad2 hours c known)
  · simp
  · exact .inl (mem_pad2 minutes c known)
  · simp
  · exact .inl (mem_pad2 seconds c known)
  · split at known
    · cases known
    · simp only [pad6, pad4, List.mem_cons, List.mem_append] at known
      rcases known with rfl | known | known | known
      · simp
      · exact .inl (mem_pad2 (by omega) c known)
      · exact .inl (mem_pad2 (by omega) c known)
      · exact .inl (mem_pad2 (by omega) c known)

theorem parseIsoTime_isoClock :
    parseIsoTime (isoClock time) =
      some (⟨Time.hourOf time, Time.minuteOf time, Time.secondOf time, Time.microsecondOf time⟩, none) := by
  have zoneless : (isoClock time).takeWhile (fun c => !isZoneMark c) = isoClock time := by
    refine List.takeWhile_eq_self_iff.mpr fun c member => ?_
    have apart : ∀ mark : Char, isAsciiDigit mark = false → mark ≠ ':' → mark ≠ '.' → c ≠ mark := by
      rintro mark noDigit noColon noPoint rfl
      rcases mem_isoClock c member with digit | rfl | rfl
      · rw [digit] at noDigit
        cases noDigit
      · exact noColon rfl
      · exact noPoint rfl
    simp [isZoneMark, apart '+' rfl (by decide) (by decide), apart '-' rfl (by decide) (by decide),
      apart 'Z' rfl (by decide) (by decide)]
  have hours : Time.hourOf time < 100 := by
    simp only [Time.hourOf, Time.timeOfDay, Time.day, Time.hour, Time.minute, Time.second]
    omega
  have minutes : Time.minuteOf time < 100 := by simp only [Time.minuteOf]; omega
  have seconds : Time.secondOf time < 100 := by simp only [Time.secondOf]; omega
  have micros : Time.microsecondOf time < 1000000 := Nat.mod_lt _ (by decide)
  have read : parseClock (isoClock time) =
      some (⟨Time.hourOf time, Time.minuteOf time, Time.secondOf time, Time.microsecondOf time⟩, false) := by
    rw [isoClock, List.append_assoc, List.cons_append, List.append_assoc, List.cons_append,
      parseClock_iso hours minutes seconds]
    split
    next zero => rw [zero]; rfl
    next => exact parseFraction_pad6 _ micros
  simp only [parseIsoTime, zoneless, List.drop_length, read]
  rfl

theorem parseIsoDate_iso {date : Date} (proper : date.proper = true) :
    parseIsoDate (pad4 date.year ++ '-' :: pad2 date.month ++ '-' :: pad2 date.day) = some date := by
  have bounds := proper
  simp only [Date.proper, Bool.and_eq_true, decide_eq_true_eq] at bounds
  obtain ⟨⟨⟨⟨⟨_, year⟩, _⟩, month⟩, _⟩, last⟩ := bounds
  have day : date.day < 100 := by
    have longest : daysInMonth (isLeap date.year) date.month ≤ 31 := by
      unfold daysInMonth
      split <;> (try split) <;> omega
    omega
  have readYear := number_pad4 (n := date.year) (by omega)
  have readMonth := number_pad2 (n := date.month) (by omega)
  have readDay := number_pad2 day
  have noWeek : digitChar (date.month / 10) ≠ 'W' := digitChar_ne (by omega) rfl
  simp only [pad4, pad2, List.cons_append, List.nil_append] at readYear readMonth readDay ⊢
  generalize digitChar (date.year / 100 / 10) = thousands at *
  generalize digitChar (date.year / 100 % 10) = hundreds at *
  generalize digitChar (date.year % 100 / 10) = tens at *
  generalize digitChar (date.year % 100 % 10) = ones at *
  simp [parseIsoDate, readYear, readMonth, readDay, noWeek, proper]

/-- `datetime.fromisoformat(time.isoformat()) == time` -/
theorem fromisoformat_isoformat (inRange : Time.inRange time = true) :
    fromisoformat (isoformat time) = some (time, none) := by
  simp only [Time.inRange, Bool.and_eq_true, decide_eq_true_eq] at inRange
  have bound : Time.days time < maxDays := by
    have late : time < (3652059 * 86400000000 : Int) := inRange.2
    simp only [Time.days, maxDays, Time.day, Time.hour, Time.minute, Time.second]
    omega
  have proper : (Time.date time).proper = true := Date.ofDays_proper bound
  have shape : isoChars time =
      (pad4 (Time.date time).year ++ '-' :: pad2 (Time.date time).month ++ '-' :: pad2 (Time.date time).day) ++
        'T' :: isoClock time := by
    simp [isoChars, isoClock]
  have width : (pad4 (Time.date time).year ++ '-' :: pad2 (Time.date time).month ++ '-' ::
      pad2 (Time.date time).day).length = 10 := by simp [pad4, pad2]
  have clockWidth : 8 ≤ (isoClock time).length := by simp [isoClock, pad2]
  have separator : separatorAt (isoChars time) = some 10 := by
    have noWeek : digitChar ((Time.date time).month / 10) ≠ 'W' := by
      have month := proper
      simp only [Date.proper, Bool.and_eq_true, decide_eq_true_eq] at month
      exact digitChar_ne (by omega) rfl
    simp [separatorAt, isoChars, pad4, pad2, noWeek]
  have clock : (⟨Time.hourOf time, Time.minuteOf time, Time.secondOf time,
      Time.microsecondOf time⟩ : Clock).proper = true := by
    have hours : Time.hourOf time < 24 := by
      simp only [Time.hourOf, Time.timeOfDay, Time.day, Time.hour, Time.minute, Time.second]
      omega
    have minutes : Time.minuteOf time < 60 := Nat.mod_lt _ (by decide)
    have seconds : Time.secondOf time < 60 := Nat.mod_lt _ (by decide)
    simp [Clock.proper, hours, minutes, seconds]
  rw [fromisoformat, isoformat, String.toList_ofList, fromIsoChars, separator, if_neg (by
    rw [shape, List.length_append, width]; omega)]
  simp only [Option.bind_eq_bind, Option.bind_some]
  rw [shape, List.take_left' width, parseIsoDate_iso proper, Option.bind_some, if_neg (by
    rw [List.length_append, width, List.length_cons]; omega)]
  have rest : (pad4 (Time.date time).year ++ '-' :: pad2 (Time.date time).month ++ '-' :: pad2 (Time.date time).day ++
      'T' :: isoClock time).drop 11 = isoClock time := by
    simp [pad4, pad2]
  rw [rest, parseIsoTime_isoClock]
  simp only [Option.bind_some, clock, ↓reduceIte, Time.ofParts_date inRange.1]

/-- `time.isoformat(timespec="microseconds")` -/
def isoMicroseconds (time : Int) : String :=
  String.ofList (pad4 (Time.date time).year ++ '-' :: pad2 (Time.date time).month ++ '-' :: pad2 (Time.date time).day ++
    'T' :: pad2 (Time.hourOf time) ++ ':' :: pad2 (Time.minuteOf time) ++ ':' :: pad2 (Time.secondOf time) ++
      '.' :: pad6 (Time.microsecondOf time))

theorem isoMicroseconds_ne_empty (time : Int) : isoMicroseconds time ≠ "" := by
  intro empty
  have chars := String.ofList_eq_empty_iff.mp empty
  simp [pad4] at chars

theorem pad2_inj (left : m < 100) (right : n < 100) (same : pad2 m = pad2 n) : m = n := by
  have known := number_pad2 left
  rw [same, number_pad2 right] at known
  exact (Option.some.inj known).symm

theorem pad4_inj (left : m < 10000) (right : n < 10000) (same : pad4 m = pad4 n) : m = n := by
  have known := number_pad4 left
  rw [same, number_pad4 right] at known
  exact (Option.some.inj known).symm

theorem pad6_inj (left : m < 1000000) (right : n < 1000000) (same : pad6 m = pad6 n) : m = n := by
  have known := parseFraction_pad6 ⟨0, 0, 0, 0⟩ left
  rw [same, parseFraction_pad6 _ right] at known
  simpa using known.symm

@[simp] theorem pad2_length (n : Nat) : (pad2 n).length = 2 := rfl

@[simp] theorem pad4_length (n : Nat) : (pad4 n).length = 4 := rfl

theorem separated_inj {first second rest rest' : List Char} (width : first.length = second.length)
    (same : first ++ c :: rest = second ++ c :: rest') : first = second ∧ rest = rest' := by
  obtain ⟨equal, tails⟩ := List.append_inj same width
  exact ⟨equal, (List.cons.inj tails).2⟩

theorem isoMicroseconds_inj {other : Int} (left : Time.inRange time = true) (right : Time.inRange other = true)
    (same : isoMicroseconds time = isoMicroseconds other) : time = other := by
  have proper : ∀ {time : Int}, Time.inRange time = true →
      (Time.date time).year < 10000 ∧ (Time.date time).month < 100 ∧ (Time.date time).day < 100 := by
    intro time inRange
    simp only [Time.inRange, Bool.and_eq_true, decide_eq_true_eq] at inRange
    have bound : Time.days time < maxDays := by
      have late : time < (3652059 * 86400000000 : Int) := inRange.2
      simp only [Time.days, maxDays, Time.day, Time.hour, Time.minute, Time.second]
      omega
    have date : (Time.date time).proper = true := Date.ofDays_proper bound
    simp only [Date.proper, Bool.and_eq_true, decide_eq_true_eq] at date
    have longest : daysInMonth (isLeap (Time.date time).year) (Time.date time).month ≤ 31 := by
      unfold daysInMonth
      split <;> (try split) <;> omega
    omega
  have hours : ∀ time : Int, Time.hourOf time < 100 := by
    intro time
    simp only [Time.hourOf, Time.timeOfDay, Time.day, Time.hour, Time.minute, Time.second]
    omega
  have minutes : ∀ time : Int, Time.minuteOf time < 100 := fun time => by simp only [Time.minuteOf]; omega
  have seconds : ∀ time : Int, Time.secondOf time < 100 := fun time => by simp only [Time.secondOf]; omega
  have micros : ∀ time : Int, Time.microsecondOf time < 1000000 := fun time => Nat.mod_lt _ (by decide)
  have chars := congrArg String.toList same
  simp only [isoMicroseconds, String.toList_ofList, List.append_assoc, List.cons_append] at chars
  obtain ⟨year, chars⟩ := separated_inj (by simp) chars
  obtain ⟨month, chars⟩ := separated_inj (by simp) chars
  obtain ⟨day, chars⟩ := separated_inj (by simp) chars
  obtain ⟨hour, chars⟩ := separated_inj (by simp) chars
  obtain ⟨minute, chars⟩ := separated_inj (by simp) chars
  obtain ⟨second, micro⟩ := separated_inj (by simp) chars
  have year' := pad4_inj (proper left).1 (proper right).1 year
  have month' := pad2_inj (proper left).2.1 (proper right).2.1 month
  have day' := pad2_inj (proper left).2.2 (proper right).2.2 day
  have date : Time.date time = Time.date other := by
    cases shape : Time.date time
    cases shape' : Time.date other
    simp only [shape, shape'] at year' month' day'
    rw [year', month', day']
  simp only [Time.inRange, Bool.and_eq_true, decide_eq_true_eq] at left right
  rw [← Time.ofParts_date left.1, ← Time.ofParts_date right.1, date, pad2_inj (hours time) (hours other) hour,
    pad2_inj (minutes time) (minutes other) minute, pad2_inj (seconds time) (seconds other) second,
    pad6_inj (micros time) (micros other) micro]

end Python
