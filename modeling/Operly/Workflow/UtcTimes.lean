import Operly.Workflow.CronMeaning
import Operly.Workflow.NextTime

/-! The next time of a schedule in UTC is its least occurrence after an instant. -/

namespace Operly.Workflow
open Python

/-- The times of a schedule in UTC. An interval without a start counts from the instant. -/
def Recurrence.Occurs (expression : String) (after : Int) : Recurrence → Int → Prop
  | .once at', time => time = at'
  | .interval every start, time => ∃ turns : Nat, time = start.getD after + turns * every * Time.second
  | .clock days hour minute, time => Time.hourOf time = hour ∧ Time.minuteOf time = minute ∧
      Time.secondOf time = 0 ∧ Time.microsecondOf time = 0 ∧ (Time.weekday time : Int) ∈ days
  | .cron _, time => Time.secondOf time = 0 ∧ Time.microsecondOf time = 0 ∧
      ∃ tokens, tokensOf expression = some tokens ∧ tokens.Describe time

def Recurrence.later (expression : String) (after : Int) (recurrence : Recurrence) : Set Int :=
  {time | after < time ∧ recurrence.Occurs expression after time}

/-- A cron expression without an occurrence among the minutes that are searched. -/
def Recurrence.Barren (expression : String) (after : Int) : Recurrence → Prop
  | .cron fields =>
      ∀ time ∈ (Recurrence.cron fields).later expression after, after / Time.minute + cronMinutes < time / Time.minute
  | _ => False

/-- The least of the times, if there is one; a barren expression is refused. -/
def Answers (times : Set Int) (barren : Prop) (result : Except WorkflowError (Option Int)) : Prop :=
  (barren → ∃ message, result = .error (.spec message)) ∧
    (¬barren → ∃ next, result = .ok next ∧
      match next with
      | some time => IsLeast times time
      | none => times = ∅)

/-- The time is ahead by more than half a step of the floats near the elapsed seconds. -/
def Discerned (start after time : Int) : Prop :=
  500000 < (time - after) * 2 ^ (52 - Nat.log2 ((after - start) / Time.second).toNat)

/-- What the answer depends on: the calendar has not ended before it, and no float reaches it too early. -/
def Recurrence.InReach (expression : String) (after : Int) : Recurrence → Prop
  | .once _ => True
  | .interval every start =>
      (∃ time ∈ (Recurrence.interval every start).later expression after, time < Time.limit) ∧
        (start.getD after ≤ after →
          ∀ time ∈ (Recurrence.interval every start).later expression after, Discerned (start.getD after) after time)
  | .clock days hour minute => ∃ time ∈ (Recurrence.clock days hour minute).later expression after, time < Time.limit
  | .cron fields =>
      (∃ time ∈ (Recurrence.cron fields).later expression after,
        time < Time.limit ∧ time / Time.minute ≤ after / Time.minute + cronMinutes) ∨
      ((Recurrence.cron fields).Barren expression after ∧
        (after / Time.minute + cronMinutes + 1) * Time.minute < Time.limit)

theorem limit_eq : Time.limit = 315537897600000000 := by decide

theorem inRange_iff {time : Int} : Time.inRange time = true ↔ 0 ≤ time ∧ time < Time.limit := by
  simp [Time.inRange]

theorem checkedTime_eq {time : Int} (positive : 0 ≤ time) :
    checkedTime time = if time < Time.limit then .ok time else .error .overflow := by
  simp only [checkedTime, inRange_iff, positive, true_and]

theorem answers_least_iff {times : Set Int} {time : Int} (least : IsLeast times time) (positive : 0 ≤ time) :
    Answers times False ((checkedTime time).map some) ↔ ∃ other ∈ times, other < Time.limit := by
  rw [checkedTime_eq positive]
  by_cases calendar : time < Time.limit
  · rw [if_pos calendar]
    exact iff_of_true ⟨False.elim, fun _ => ⟨some time, rfl, least⟩⟩ ⟨time, least.1, calendar⟩
  · rw [if_neg calendar]
    apply iff_of_false
    · intro answers
      obtain ⟨_, same, -⟩ := answers.2 not_false
      cases same
    · rintro ⟨other, member, early⟩
      have := least.2 member
      omega

section
variable {days : List Int} {hour minute : Nat} {after : Int} {expression : String}

theorem clock_occurs_iff {time : Int} (few : minute < 60) :
    (Recurrence.clock days hour minute).Occurs expression after time ↔ (Recurrence.clock days hour minute).Falls time := by
  have clock : time % Time.day = hour * Time.hour + minute * Time.minute ↔
      Time.hourOf time = hour ∧ Time.minuteOf time = minute ∧ Time.secondOf time = 0 ∧ Time.microsecondOf time = 0 := by
    simp only [Time.hourOf, Time.minuteOf, Time.secondOf, Time.microsecondOf, Time.timeOfDay, Time.day, Time.hour,
      Time.minute, Time.second]
    omega
  simp only [Recurrence.Occurs, Recurrence.Falls, clock, and_assoc]

theorem exists_hit (positive : 0 ≤ after) (named : ∃ day ∈ days, 0 ≤ day ∧ day ≤ 6) (early : hour < 24) (few : minute < 60) :
    ∃ ahead < 8, Hits days hour minute after ahead := by
  obtain ⟨day, member, above, below⟩ := named
  -- the first such day of the week from tomorrow on
  have weekday : Time.weekday (after + (((day - Time.weekday after - 1) % 7).toNat + 1 : Nat) * Time.day) = day := by
    simp only [Time.weekday, Time.days, Time.day, Time.hour, Time.minute, Time.second]
    omega
  refine ⟨((day - Time.weekday after - 1) % 7).toNat + 1, by omega, ?_, ?_⟩
  · rw [weekday]
    exact member
  · simp only [clockTime, Time.day, Time.hour, Time.minute, Time.second]
    omega

theorem nextClockTime_first (positive : 0 ≤ after) (early : hour < 24) (few : minute < 60) {first : Nat}
    (hits : Hits days hour minute after first) (clear : ∀ ahead < first, ¬Hits days hour minute after ahead)
    {remaining offset : Nat} (started : offset ≤ first) (within : first < offset + remaining) :
    nextClockTime utcZone days hour minute after remaining offset =
      (checkedTime (clockTime hour minute after first)).map some := by
  induction remaining generalizing offset with
  | zero => omega
  | succ remaining ih =>
    have shifted : 0 ≤ after + offset * Time.day := by
      simp only [Time.day, Time.hour, Time.minute, Time.second]
      omega
    have candidate : Time.ofParts (Time.date (after + offset * Time.day)) hour minute 0 0 =
        clockTime hour minute after offset := by
      rw [ofParts_clock shifted, clockTime, Int.add_mul_ediv_right _ _ (by decide)]
    rw [nextClockTime, checkedTime_eq shifted]
    by_cases calendar : after + offset * Time.day < Time.limit
    · rw [if_pos calendar]
      show (if _ then _ else _) = _
      rw [candidate]
      rcases Nat.eq_or_lt_of_le started with rfl | before
      · rw [if_pos ⟨by simpa using hits.1, hits.2⟩, Zone.utc]
        simp only [utcZone, Int.sub_zero]
      · have misses : ¬((days.contains (Time.weekday (after + offset * Time.day) : Int)) = true ∧
            after < clockTime hour minute after offset) :=
          fun both => clear offset before ⟨by simpa using both.1, both.2⟩
        rw [if_neg misses]
        exact ih before (by omega)
    · have late : ¬clockTime hour minute after first < Time.limit := by
        simp only [clockTime, limit_eq, Time.day, Time.hour, Time.minute, Time.second] at calendar ⊢
        omega
      have ahead : 0 ≤ clockTime hour minute after first := by have := hits.2; omega
      rw [if_neg calendar, checkedTime_eq ahead, if_neg late]
      rfl

theorem clock_answers (instant : Time.inRange after = true) (proper : (Recurrence.clock days hour minute).Proper) :
    Answers ((Recurrence.clock days hour minute).later expression after) False
        ((Recurrence.clock days hour minute).next (.ok utcZone) after) ↔
      (Recurrence.clock days hour minute).InReach expression after := by
  obtain ⟨named, early, few⟩ := proper
  obtain ⟨positive, -⟩ := inRange_iff.mp instant
  have exists' : ∃ ahead, Hits days hour minute after ahead := by
    obtain ⟨ahead, -, hits⟩ := exists_hit positive named early few
    exact ⟨ahead, hits⟩
  classical
  have hits := Nat.find_spec exists'
  have clear : ∀ ahead < Nat.find exists', ¬Hits days hour minute after ahead := fun _ before => Nat.find_min exists' before
  have soon : Nat.find exists' < 8 := by
    obtain ⟨ahead, few, hits⟩ := exists_hit positive named early few
    exact (Nat.find_min' exists' hits).trans_lt few
  generalize Nat.find exists' = first at hits clear soon
  have least : IsLeast ((Recurrence.clock days hour minute).later expression after) (clockTime hour minute after first) := by
    have same : (Recurrence.clock days hour minute).later expression after =
        {wall | (Recurrence.clock days hour minute).Falls wall ∧ after < wall} := by
      ext time
      exact and_comm.trans (and_congr_left fun _ => clock_occurs_iff few)
    rw [same]
    exact clockTime_least early few hits clear
  have found : (Recurrence.clock days hour minute).next (.ok utcZone) after =
      (checkedTime (clockTime hour minute after first)).map some := by
    have shown : utcZone.local after = .ok after := by
      rw [Zone.local, checkedTime, show utcZone.offsetAt after = 0 from rfl, Int.add_zero, if_pos instant]
    have scanned := nextClockTime_first positive early few hits clear (Nat.zero_le first) (by omega : first < 0 + 9)
    rw [Recurrence.next, ← scanned]
    show (utcZone.local after >>= _) = _
    rw [shown]
    rfl
  have ahead := hits.2
  rw [found]
  exact answers_least_iff least (by omega)

end

/-! ### The scan over minutes -/

section
variable {fields : CronFields} {expression : String} {after : Int}

theorem nextCronTime_first {remaining first : Nat} {candidate : Int} (positive : 0 ≤ candidate) (within : first < remaining)
    (hits : cronMatches (candidate + first * Time.minute) fields = true)
    (clear : ∀ ahead < first, cronMatches (candidate + ahead * Time.minute) fields = false) :
    nextCronTime utcZone fields remaining candidate = checkedTime (candidate + first * Time.minute) := by
  induction first generalizing remaining candidate with
  | zero =>
    cases remaining with
    | zero => omega
    | succ remaining =>
      have now : cronMatches candidate fields = true := by simpa using hits
      rw [nextCronTime, if_pos now, Zone.utc]
      simp [utcZone]
  | succ first ih =>
    cases remaining with
    | zero => omega
    | succ remaining =>
      have now : ¬cronMatches candidate fields = true := by simpa using clear 0 (by omega)
      have shift : ∀ n : Nat, candidate + (n + 1 : Nat) * Time.minute = candidate + Time.minute + n * Time.minute := by
        intro n
        simp only [Time.minute, Time.second]
        omega
      have later : 0 ≤ candidate + Time.minute := by
        simp only [Time.minute, Time.second]
        omega
      rw [nextCronTime, if_neg now, checkedTime_eq later, shift]
      by_cases calendar : candidate + Time.minute < Time.limit
      · rw [if_pos calendar]
        apply ih later (by omega)
        · rw [← shift]
          exact hits
        · intro ahead before
          rw [← shift]
          exact clear (ahead + 1) (by omega)
      · have late : ¬candidate + Time.minute + first * Time.minute < Time.limit := by
          simp only [limit_eq, Time.minute, Time.second] at calendar ⊢
          omega
        have ahead : 0 ≤ candidate + Time.minute + first * Time.minute := by
          simp only [Time.minute, Time.second]
          omega
        rw [if_neg calendar, checkedTime_eq ahead, if_neg late]
        rfl

theorem nextCronTime_barren {remaining : Nat} {candidate : Int} (instant : Time.inRange candidate = true)
    (clear : ∀ ahead < remaining, cronMatches (candidate + ahead * Time.minute) fields = false) :
    (∃ message, nextCronTime utcZone fields remaining candidate = .error (.spec message)) ↔
      candidate + remaining * Time.minute < Time.limit := by
  induction remaining generalizing candidate with
  | zero =>
    obtain ⟨-, calendar⟩ := inRange_iff.mp instant
    exact iff_of_true ⟨_, rfl⟩ (by simpa using calendar)
  | succ remaining ih =>
    have now : ¬cronMatches candidate fields = true := by simpa using clear 0 (by omega)
    have shift : ∀ n : Nat, candidate + (n + 1 : Nat) * Time.minute = candidate + Time.minute + n * Time.minute := by
      intro n
      simp only [Time.minute, Time.second]
      omega
    obtain ⟨positive, -⟩ := inRange_iff.mp instant
    have later : 0 ≤ candidate + Time.minute := by
      simp only [Time.minute, Time.second]
      omega
    rw [nextCronTime, if_neg now, checkedTime_eq later, shift]
    by_cases calendar : candidate + Time.minute < Time.limit
    · rw [if_pos calendar]
      apply ih (inRange_iff.mpr ⟨later, calendar⟩)
      intro ahead before
      rw [← shift]
      exact clear (ahead + 1) (by omega)
    · rw [if_neg calendar]
      apply iff_of_false
      · rintro ⟨message, same⟩
        cases same
      · simp only [limit_eq, Time.minute, Time.second] at calendar ⊢
        omega

theorem cron_occurs_iff {time : Int} (parsed : parseCron expression = .ok fields) :
    (Recurrence.cron fields).Occurs expression after time ↔ (Recurrence.cron fields).Falls time := by
  obtain ⟨tokens, read, described⟩ := parseCron_matches parsed
  have whole : time % Time.minute = 0 ↔ Time.secondOf time = 0 ∧ Time.microsecondOf time = 0 := by
    simp only [Time.secondOf, Time.microsecondOf, Time.timeOfDay, Time.day, Time.hour, Time.minute, Time.second]
    omega
  simp only [Recurrence.Occurs, Recurrence.Falls, read, Option.some.injEq, exists_eq_left', described, whole, and_assoc]

def firstMinute (after : Int) : Int := after / Time.minute * Time.minute + Time.minute

theorem cron_next (instant : Time.inRange after = true) : (Recurrence.cron fields).next (.ok utcZone) after =
    checkedTime (firstMinute after) >>= fun candidate => (nextCronTime utcZone fields cronMinutes candidate).map some := by
  have shown : utcZone.local after = .ok after := by
    rw [Zone.local, checkedTime, show utcZone.offsetAt after = 0 from rfl, Int.add_zero, if_pos instant]
  show (utcZone.local after >>= _) = _
  rw [shown]
  rfl

theorem minute_ahead {time : Int} (later : after < time) (whole : time % Time.minute = 0) :
    ∃ offset : Nat, time = firstMinute after + offset * Time.minute ∧
      time / Time.minute = after / Time.minute + 1 + offset := by
  refine ⟨(time / Time.minute - after / Time.minute - 1).toNat, ?_⟩
  simp only [firstMinute, Time.minute, Time.second] at whole ⊢
  omega

theorem cron_answers_hit (instant : Time.inRange after = true) (parsed : parseCron expression = .ok fields) {first : Nat}
    (few : first < cronMinutes) (hits : cronMatches (firstMinute after + first * Time.minute) fields = true)
    (clear : ∀ ahead < first, cronMatches (firstMinute after + ahead * Time.minute) fields = false) :
    Answers ((Recurrence.cron fields).later expression after) ((Recurrence.cron fields).Barren expression after)
        ((Recurrence.cron fields).next (.ok utcZone) after) ↔ (Recurrence.cron fields).InReach expression after := by
  obtain ⟨positive, -⟩ := inRange_iff.mp instant
  have least : IsLeast ((Recurrence.cron fields).later expression after) (firstMinute after + first * Time.minute) := by
    have same : (Recurrence.cron fields).later expression after =
        {wall | (Recurrence.cron fields).Falls wall ∧ after < wall} := by
      ext time
      exact and_comm.trans (and_congr_left fun _ => cron_occurs_iff parsed)
    rw [same]
    exact cronTime_least hits clear
  have reached : (firstMinute after + first * Time.minute) / Time.minute ≤ after / Time.minute + cronMinutes := by
    simp only [firstMinute, Time.minute, Time.second]
    omega
  have fruitful : ¬(Recurrence.cron fields).Barren expression after := by
    intro barren
    have := barren _ least.1
    omega
  have candidate : 0 ≤ firstMinute after := by
    simp only [firstMinute, Time.minute, Time.second]
    omega
  have time : 0 ≤ firstMinute after + first * Time.minute := by
    simp only [Time.minute, Time.second]
    omega
  have found : (Recurrence.cron fields).next (.ok utcZone) after =
      (checkedTime (firstMinute after + first * Time.minute)).map some := by
    rw [cron_next instant, checkedTime_eq candidate]
    by_cases calendar : firstMinute after < Time.limit
    · rw [if_pos calendar, ← nextCronTime_first candidate few hits clear]
      rfl
    · have late : ¬firstMinute after + first * Time.minute < Time.limit := by
        simp only [Time.minute, Time.second]
        omega
      rw [if_neg calendar, checkedTime_eq time, if_neg late]
      rfl
  rw [found, eq_false fruitful, answers_least_iff least time]
  constructor
  · rintro ⟨other, member, early⟩
    have before := least.2 member
    exact .inl ⟨_, least.1, by omega, reached⟩
  · rintro (⟨other, member, early, -⟩ | ⟨barren, -⟩)
    · exact ⟨other, member, early⟩
    · exact absurd barren fruitful

theorem cron_answers_barren (instant : Time.inRange after = true) (parsed : parseCron expression = .ok fields)
    (clear : ∀ ahead < cronMinutes, cronMatches (firstMinute after + ahead * Time.minute) fields = false) :
    Answers ((Recurrence.cron fields).later expression after) ((Recurrence.cron fields).Barren expression after)
        ((Recurrence.cron fields).next (.ok utcZone) after) ↔ (Recurrence.cron fields).InReach expression after := by
  obtain ⟨positive, -⟩ := inRange_iff.mp instant
  have barren : (Recurrence.cron fields).Barren expression after := by
    rintro time ⟨later, occurs⟩
    obtain ⟨whole, falls⟩ := (cron_occurs_iff parsed).mp occurs
    obtain ⟨offset, same, minutes⟩ := minute_ahead later whole
    by_contra soon
    have misses := clear offset (by omega)
    rw [← same] at misses
    rw [misses] at falls
    cases falls
  have candidate : 0 ≤ firstMinute after := by
    simp only [firstMinute, Time.minute, Time.second]
    omega
  have refused : (∃ message, (Recurrence.cron fields).next (.ok utcZone) after = .error (.spec message)) ↔
      firstMinute after + cronMinutes * Time.minute < Time.limit := by
    rw [cron_next instant, checkedTime_eq candidate]
    by_cases calendar : firstMinute after < Time.limit
    · rw [if_pos calendar, ← nextCronTime_barren (inRange_iff.mpr ⟨candidate, calendar⟩) clear]
      show (∃ message, (nextCronTime utcZone fields cronMinutes (firstMinute after)).map some = _) ↔ _
      cases nextCronTime utcZone fields cronMinutes (firstMinute after) with
      | ok time => simp [Except.map]
      | error failure => simp [Except.map]
    · rw [if_neg calendar]
      apply iff_of_false
      · rintro ⟨message, same⟩
        cases same
      · simp only [Time.minute, Time.second]
        omega
  have bound : firstMinute after + cronMinutes * Time.minute = (after / Time.minute + cronMinutes + 1) * Time.minute := by
    simp only [firstMinute, Time.minute, Time.second]
    omega
  constructor
  · intro answers
    refine .inr ⟨barren, ?_⟩
    rw [← bound]
    exact refused.mp (answers.1 barren)
  · rintro (⟨time, member, -, soon⟩ | ⟨-, calendar⟩)
    · have := barren time member
      omega
    · rw [← bound] at calendar
      exact ⟨fun _ => refused.mpr calendar, fun fruitful => absurd barren fruitful⟩

theorem cron_answers (instant : Time.inRange after = true) (parsed : parseCron expression = .ok fields) :
    Answers ((Recurrence.cron fields).later expression after) ((Recurrence.cron fields).Barren expression after)
        ((Recurrence.cron fields).next (.ok utcZone) after) ↔ (Recurrence.cron fields).InReach expression after := by
  by_cases hit : ∃ first, first < cronMinutes ∧ cronMatches (firstMinute after + first * Time.minute) fields = true
  · classical
    obtain ⟨few, hits⟩ := Nat.find_spec hit
    apply cron_answers_hit instant parsed few hits
    intro ahead before
    have misses := Nat.find_min hit before
    simpa [before.trans few] using misses
  · apply cron_answers_barren instant parsed
    intro ahead few
    have misses := not_exists.mp hit ahead
    simpa [few] using misses

end

/-! ### Intervals -/

section
variable {every start after : Int}

theorem wholeSeconds_lt_iff {delta whole : Nat} (ahead : delta < whole * 1000000) (calendar : (delta : Int) < Time.limit) :
    Time.wholeSeconds delta < whole ↔ 500000 < (whole * 1000000 - delta) * 2 ^ (52 - Nat.log2 (delta / 1000000)) := by
  have small : Nat.log2 (delta / 1000000) < 52 := by
    by_cases zero : delta / 1000000 = 0
    · rw [zero]
      decide
    · apply (Nat.log2_lt zero).mpr
      rw [limit_eq] at calendar
      omega
  obtain ⟨half, even⟩ : ∃ half, 2 ^ (52 - Nat.log2 (delta / 1000000)) = 2 * half := by
    refine ⟨2 ^ (51 - Nat.log2 (delta / 1000000)), ?_⟩
    rw [← Nat.pow_succ', show (51 - Nat.log2 (delta / 1000000)).succ = 52 - Nat.log2 (delta / 1000000) by omega]
  have positive : 0 < 2 ^ (52 - Nat.log2 (delta / 1000000)) := Nat.two_pow_pos _
  unfold Time.wholeSeconds
  dsimp only
  generalize 2 ^ (52 - Nat.log2 (delta / 1000000)) = scale at even positive ⊢
  rw [Nat.div_lt_iff_lt_mul positive]
  obtain ⟨gap, same⟩ : ∃ gap, whole * 1000000 = delta + gap := ⟨whole * 1000000 - delta, by omega⟩
  have scaled : whole * scale * 1000000 = delta * scale + gap * scale := by
    rw [Nat.mul_right_comm, same, Nat.add_mul]
  have twice : whole * scale = 2 * (whole * half) := by rw [even, Nat.mul_left_comm]
  have apart : 0 < gap * scale := Nat.mul_pos (by omega) positive
  rw [show whole * 1000000 - delta = gap by omega]
  generalize whole * scale = total at scaled twice ⊢
  generalize delta * scale = product at scaled ⊢
  generalize gap * scale = rest at scaled apart ⊢
  split <;> omega

def turnAhead (every start after : Int) : Int := (after - start) / Time.second / every + 1

theorem turnAhead_spec (period : 60 ≤ every) (turn : Int) :
    after < start + turn * every * Time.second ↔ turnAhead every start after ≤ turn := by
  have seconds : after < start + turn * every * Time.second ↔ (after - start) / Time.second < turn * every := by
    simp only [Time.second]
    omega
  rw [seconds, ← Int.ediv_lt_iff_lt_mul (by omega : 0 < every), turnAhead]
  omega

theorem turnAhead_least (period : 60 ≤ every) (reached : start ≤ after) :
    IsLeast {time | after < time ∧ ∃ turns : Nat, time = start + turns * every * Time.second}
      (start + turnAhead every start after * every * Time.second) := by
  have forward : 0 ≤ turnAhead every start after := by
    have elapsed : 0 ≤ (after - start) / Time.second := Int.ediv_nonneg (by omega) (by decide)
    have turns : 0 ≤ (after - start) / Time.second / every := Int.ediv_nonneg elapsed (by omega)
    rw [turnAhead]
    omega
  constructor
  · refine ⟨(turnAhead_spec period _).mpr le_rfl, (turnAhead every start after).toNat, ?_⟩
    rw [Int.toNat_of_nonneg forward]
  · rintro time ⟨later, turns, rfl⟩
    have turn : turnAhead every start after ≤ turns := (turnAhead_spec period _).mp later
    have whole : turnAhead every start after * every ≤ turns * every := Int.mul_le_mul_of_nonneg_right turn (by omega)
    simp only [Time.second]
    omega

theorem nextInterval_turn (period : 60 ≤ every) (reached : start ≤ after) (calendar : after - start < Time.limit) :
    ∃ turn, turnAhead every start after ≤ turn ∧
      nextInterval every start after = checkedTime (start + turn * every * Time.second) ∧
      (turn = turnAhead every start after ↔
        Discerned start after (start + turnAhead every start after * every * Time.second)) := by
  obtain ⟨delta, same⟩ : ∃ delta : Nat, after - start = delta := ⟨(after - start).toNat, by omega⟩
  have seconds : (after - start) / Time.second = (delta / 1000000 : Nat) := by
    simp only [same, Time.second]
    omega
  have elapsed := wholeSeconds_ge delta
  have later : turnAhead every start after ≤ Time.wholeSeconds delta / every + 1 := by
    have turns : ((delta / 1000000 : Nat) : Int) / every ≤ Time.wholeSeconds delta / every :=
      Int.ediv_le_ediv (by omega) (by omega)
    rw [turnAhead, seconds]
    omega
  have found : nextInterval every start after =
      checkedTime (start + (Time.wholeSeconds delta / every + 1) * every * Time.second) := by
    rw [nextInterval, if_neg (by omega), same, Int.toNat_natCast]
  refine ⟨_, later, found, ?_⟩
  -- the whole seconds of the first turn ahead
  obtain ⟨whole, product⟩ : ∃ whole : Nat, turnAhead every start after * every = whole := by
    refine ⟨(turnAhead every start after * every).toNat, (Int.toNat_of_nonneg (Int.mul_nonneg ?_ (by omega))).symm⟩
    have turns : 0 ≤ (after - start) / Time.second / every := by
      rw [seconds]
      exact Int.ediv_nonneg (by omega) (by omega)
    rw [turnAhead]
    omega
  have ahead : after < start + turnAhead every start after * every * Time.second := (turnAhead_spec period _).mpr le_rfl
  rw [product] at ahead
  have beyond : delta < whole * 1000000 := by
    simp only [Time.second] at ahead
    omega
  have discerned : Discerned start after (start + turnAhead every start after * every * Time.second) ↔
      Time.wholeSeconds delta < whole := by
    have distance : start + whole * Time.second - after = (whole * 1000000 - delta : Nat) := by
      simp only [Time.second]
      omega
    rw [wholeSeconds_lt_iff beyond (same ▸ calendar), Discerned, product, distance, seconds, Int.toNat_natCast]
    norm_cast
  have reachedTurn : (Time.wholeSeconds delta : Int) / every < turnAhead every start after ↔
      Time.wholeSeconds delta < whole := by
    rw [Int.ediv_lt_iff_lt_mul (by omega), product]
    omega
  rw [discerned, ← reachedTurn]
  omega

theorem interval_answers {expression : String} {start : Option Int} (instant : Time.inRange after = true)
    (proper : (Recurrence.interval every start).Proper) :
    Answers ((Recurrence.interval every start).later expression after) False
        ((Recurrence.interval every start).next (.ok utcZone) after) ↔
      (Recurrence.interval every start).InReach expression after := by
  obtain ⟨period, started⟩ := proper
  obtain ⟨positive, calendar⟩ := inRange_iff.mp instant
  have anchor : 0 ≤ start.getD after ∧ start.getD after < Time.limit := by
    cases start with
    | none => exact ⟨positive, calendar⟩
    | some time => exact inRange_iff.mp (started time rfl)
  show Answers _ _ ((nextInterval every (start.getD after) after).map some) ↔ _ ∧ _
  have times : (Recurrence.interval every start).later expression after =
      {time | after < time ∧ ∃ turns : Nat, time = start.getD after + turns * every * Time.second} := rfl
  rw [times]
  generalize start.getD after = first at anchor ⊢
  by_cases reached : first ≤ after
  · have least := turnAhead_least period reached
    obtain ⟨turn, later, found, discerned⟩ := nextInterval_turn period reached (by omega)
    generalize turnAhead every first after = ahead at least later discerned
    have time : 0 ≤ first + ahead * every * Time.second := by
      have := least.1.1
      omega
    rw [found]
    by_cases exact' : turn = ahead
    · subst exact'
      rw [answers_least_iff least time]
      refine (and_iff_left ?_).symm
      rintro - other member
      have near := discerned.mp rfl
      have far : first + turn * every * Time.second ≤ other := least.2 member
      have scaled := Int.mul_le_mul_of_nonneg_right (by omega : first + turn * every * Time.second - after ≤ other - after)
        (Int.pow_nonneg (by decide : (0 : Int) ≤ 2) : 0 ≤ (2 : Int) ^ (52 - Nat.log2 ((after - first) / Time.second).toNat))
      exact near.trans_le scaled
    · apply iff_of_false
      · intro answers
        obtain ⟨next, same, right⟩ := answers.2 not_false
        have beyond : (ahead + 1) * every ≤ turn * every := Int.mul_le_mul_of_nonneg_right (by omega) (by omega)
        rw [Int.add_mul, Int.one_mul] at beyond
        have strict : first + ahead * every * Time.second < first + turn * every * Time.second := by
          simp only [Time.second]
          omega
        obtain ⟨found', read, rfl⟩ := map_eq_ok.mp same
        obtain ⟨-, rfl⟩ := checkedTime_eq_ok.mp read
        exact strict.ne (least.unique right)
      · rintro ⟨-, every'⟩
        exact exact' (discerned.mpr (every' reached _ least.1))
  · have least : IsLeast {time | after < time ∧ ∃ turns : Nat, time = first + turns * every * Time.second} first := by
      constructor
      · exact ⟨by omega, 0, by simp⟩
      · rintro time ⟨-, turns, rfl⟩
        have forward : 0 ≤ (turns : Int) * every := Int.mul_nonneg (by omega) (by omega)
        simp only [Time.second]
        omega
    have found : nextInterval every first after = checkedTime first := by
      rw [nextInterval, if_pos (by omega), checkedTime_eq anchor.1, if_pos anchor.2]
    rw [found, answers_least_iff least anchor.1]
    exact (and_iff_left fun before => absurd before reached).symm

end

/-! ### Schedules -/

theorem once_answers {expression : String} {at' after : Int} :
    Answers ((Recurrence.once at').later expression after) False ((Recurrence.once at').next (.ok utcZone) after) := by
  refine ⟨False.elim, fun _ => ⟨if after < at' then some at' else none, rfl, ?_⟩⟩
  split
  · next same =>
    split at same
    · next later =>
      cases same
      exact ⟨⟨later, rfl⟩, fun _ member => member.2.ge⟩
    · cases same
  · next same =>
    split at same
    · cases same
    · next passed =>
      ext time
      refine iff_of_false ?_ id
      rintro ⟨later, rfl⟩
      exact passed later

def expressionText (platform : Platform) (fields : Fields) : String :=
  strip (operand platform.spelling fields "expression" "")

theorem recurrence_answers {platform : Platform} {fields : Fields} {scheduleType : String} {recurrence : Recurrence}
    {after : Int} (said : Recurrence.Said platform fields scheduleType recurrence) (instant : Time.inRange after = true) :
    Answers (recurrence.later (expressionText platform fields) after)
        (recurrence.Barren (expressionText platform fields) after) (recurrence.next (.ok utcZone) after) ↔
      recurrence.InReach (expressionText platform fields) after := by
  have proper := said.proper
  cases said with
  | once _ => exact iff_of_true once_answers trivial
  | interval _ _ => exact interval_answers instant proper
  | daily _ _ => exact clock_answers instant proper
  | weekly _ _ _ => exact clock_answers instant proper
  | cron read => exact cron_answers instant read

def occurrences (platform : Platform) (value : Json) (after : Int) : Set Int :=
  {time | ∃ fields recurrence, value = .obj fields ∧
    Recurrence.Said platform fields (typeName platform fields) recurrence ∧
      time ∈ recurrence.later (expressionText platform fields) after}

def Barren (platform : Platform) (value : Json) (after : Int) : Prop :=
  ∃ fields recurrence, value = .obj fields ∧
    Recurrence.Said platform fields (typeName platform fields) recurrence ∧
      recurrence.Barren (expressionText platform fields) after

def InReach (platform : Platform) (value : Json) (after : Int) : Prop :=
  ∀ fields recurrence, value = .obj fields → Recurrence.Said platform fields (typeName platform fields) recurrence →
    recurrence.InReach (expressionText platform fields) after

theorem said_manual {platform : Platform} {value : Json} (accepted : validateSchedule platform value = .ok none)
    {fields : Fields} {recurrence : Recurrence} (same : value = .obj fields)
    (said : Recurrence.Said platform fields (typeName platform fields) recurrence) : False := by
  subst same
  have manual : typeName platform fields = "manual" := by
    unfold validateSchedule at accepted
    split at accepted
    · next empty =>
      have blank : fields = [] := by
        cases fields with
        | nil => rfl
        | cons _ _ => cases empty
      subst blank
      show lower (strip "manual") = "manual"
      decide +kernel
    · dsimp only at accepted
      split at accepted
      · next manual => exact manual
      · simp only [throw_bind, check_eq_ok, bind_eq_ok] at accepted
        obtain ⟨-, _, -, other⟩ := accepted
        cases pure_eq_ok.mp other
  generalize typeName platform fields = scheduleType at said manual
  cases said <;> exact absurd manual (by decide)

/-- In UTC the answer is the least occurrence after the instant, exactly when the calendar holds it and, for an
interval, no float reaches it too early. -/
theorem utc_time_least {platform : Platform} {value : Json} {schedule : Option Fields} {after : Int}
    (accepted : validateSchedule platform value = .ok schedule)
    (utc : ∀ fields, value = .obj fields → storedZone platform fields = .ok utcZone) (instant : Time.inRange after = true) :
    Answers (occurrences platform value after) (Barren platform value after) (nextScheduleTime platform value after) ↔
      InReach platform value after := by
  cases schedule with
  | none =>
    have found : nextScheduleTime platform value after = .ok none := by
      rw [nextScheduleTime, accepted]
      rfl
    have never : occurrences platform value after = ∅ := by
      ext time
      refine iff_of_false ?_ id
      rintro ⟨fields, recurrence, same, said, -⟩
      exact said_manual accepted same said
    apply iff_of_true
    · rw [found]
      refine ⟨?_, fun _ => ⟨none, rfl, never⟩⟩
      rintro ⟨fields, recurrence, same, said, -⟩
      exact (said_manual accepted same said).elim
    · exact fun fields recurrence same said => (said_manual accepted same said).elim
  | some stored =>
    obtain ⟨fields, recurrence, rfl, said, found⟩ := validateSchedule_said accepted
    have only : ∀ {P : Fields → Recurrence → Prop}, (∃ fields' recurrence', Json.obj fields = .obj fields' ∧
        Recurrence.Said platform fields' (typeName platform fields') recurrence' ∧ P fields' recurrence') ↔
          P fields recurrence := by
      intro P
      constructor
      · rintro ⟨fields', recurrence', same, said', holds⟩
        cases same
        exact said'.unique said ▸ holds
      · exact fun holds => ⟨fields, recurrence, rfl, said, holds⟩
    have times : occurrences platform (.obj fields) after = recurrence.later (expressionText platform fields) after := by
      ext time
      exact only
    have barren : Barren platform (.obj fields) after = recurrence.Barren (expressionText platform fields) after :=
      propext only
    have reach : InReach platform (.obj fields) after ↔ recurrence.InReach (expressionText platform fields) after := by
      constructor
      · exact fun every => every fields recurrence rfl said
      · rintro holds fields' recurrence' same said'
        cases same
        exact said'.unique said ▸ holds
    rw [times, barren, reach, found, utc fields rfl]
    exact recurrence_answers said instant

def utcPlatform : Platform where
  spelling := ⟨fun _ => "0.0", fun _ => ""⟩
  zones := fun name => if name = "UTC" then some utcZone else none

def everyMinute : Json :=
  .obj [("type", .str "interval"), ("every_seconds", .int 60), ("start_at", .str "0001-01-01T00:00:00")]

/-- A microsecond before a turn in 1902, the float of the elapsed seconds has already reached it. -/
theorem turn_skipped :
    (∃ schedule, validateSchedule utcPlatform everyMinute = .ok (some schedule)) ∧
      Time.inRange (60000000000 * Time.second - 1) = true ∧
      ¬Answers (occurrences utcPlatform everyMinute (60000000000 * Time.second - 1))
        (Barren utcPlatform everyMinute (60000000000 * Time.second - 1))
        (nextScheduleTime utcPlatform everyMinute (60000000000 * Time.second - 1)) := by
  have found : nextScheduleTime utcPlatform everyMinute (60000000000 * Time.second - 1) =
      .ok (some (60000000060 * Time.second)) := by decide +kernel
  have said : Recurrence.Said utcPlatform [("type", .str "interval"), ("every_seconds", .int 60),
      ("start_at", .str "0001-01-01T00:00:00")] "interval" (.interval 60 (some 0)) :=
    .interval (by decide +kernel) ⟨by decide +kernel, by decide +kernel⟩
  have missed : 60000000000 * Time.second ∈ occurrences utcPlatform everyMinute (60000000000 * Time.second - 1) := by
    refine ⟨_, .interval 60 (some 0), rfl, ?_, by decide, 1000000000, by decide⟩
    have named : typeName utcPlatform [("type", .str "interval"), ("every_seconds", .int 60),
        ("start_at", .str "0001-01-01T00:00:00")] = "interval" := by decide +kernel
    exact named ▸ said
  refine ⟨⟨[("type", .str "interval"), ("timezone", .str "UTC"), ("every_seconds", .int 60),
    ("start_at", .str "0001-01-01T00:00:00")], by decide +kernel⟩, by decide +kernel, ?_⟩
  intro answers
  rw [found] at answers
  have fruitful : ¬Barren utcPlatform everyMinute (60000000000 * Time.second - 1) := by
    intro barren
    obtain ⟨_, same⟩ := answers.1 barren
    cases same
  obtain ⟨_, same, least⟩ := answers.2 fruitful
  cases same
  exact absurd (least.2 missed) (by decide)

def breakfast : Json :=
  .obj [("type", .str "daily"), ("time", .str "07:30")]

/-- From midnight of the first day on, breakfast is at half past seven. -/
theorem utc_time_least_breakfast :
    Answers (occurrences utcPlatform breakfast 0) (Barren utcPlatform breakfast 0)
      (nextScheduleTime utcPlatform breakfast 0) := by
  have accepted : validateSchedule utcPlatform breakfast = .ok (some
      [("type", .str "daily"), ("timezone", .str "UTC"), ("time", .str "07:30")]) := by decide +kernel
  have utc : ∀ fields, breakfast = .obj fields → storedZone utcPlatform fields = .ok utcZone := by
    rintro fields same
    cases same
    rfl
  refine (utc_time_least accepted utc (by decide)).mpr ?_
  rintro fields recurrence same said
  cases same
  have named : typeName utcPlatform [("type", .str "daily"), ("time", .str "07:30")] = "daily" := by decide +kernel
  have daily : Recurrence.Said utcPlatform [("type", .str "daily"), ("time", .str "07:30")] "daily"
      (.clock everyDay 7 30) := .daily (by rfl) (by decide +kernel)
  rw [named] at said
  rw [said.unique daily]
  exact ⟨7 * Time.hour + 30 * Time.minute, ⟨by decide, (clock_occurs_iff (by decide)).mpr ⟨by decide, by decide⟩⟩, by decide⟩

end Operly.Workflow
