import Operly.Workflow.Recurrence

/-! The next time of a schedule, in any time zone. -/

namespace Operly.Workflow
open Python

def Recurrence.Falls : Recurrence → Int → Prop
  | .clock days hour minute, wall =>
      wall % Time.day = hour * Time.hour + minute * Time.minute ∧ (Time.weekday wall : Int) ∈ days
  | .cron fields, wall => wall % Time.minute = 0 ∧ cronMatches wall fields = true
  | .once _, _ | .interval _ _, _ => False

/-- The wall clock time is the first one ahead that the recurrence falls on. -/
def Recurrence.FallsNext (recurrence : Recurrence) (localAfter wall : Int) : Prop :=
  IsLeast {wall | recurrence.Falls wall ∧ localAfter < wall} wall

theorem ofParts_clock {time : Int} (positive : 0 ≤ time) (hour minute : Nat) :
    Time.ofParts (Time.date time) hour minute 0 0 = time / Time.day * Time.day + (hour * Time.hour + minute * Time.minute) := by
  have known : (Time.date time).days = Time.days time := (Date.ofDays_spec (Time.days time)).1
  have whole : ((time / Time.day).toNat : Int) = time / Time.day := by
    apply Int.toNat_of_nonneg
    exact Int.ediv_nonneg positive (by decide)
  rw [Time.ofParts, known, Time.days, whole]
  simp

section
variable {zone : Zone} {days : List Int} {hour minute : Nat} {localAfter : Int}

/-- The clock time on the day `offset` days ahead. -/
def clockTime (hour minute : Nat) (localAfter : Int) (offset : Nat) : Int :=
  (localAfter / Time.day + offset) * Time.day + (hour * Time.hour + minute * Time.minute)

def Hits (days : List Int) (hour minute : Nat) (localAfter : Int) (offset : Nat) : Prop :=
  (Time.weekday (localAfter + offset * Time.day) : Int) ∈ days ∧ localAfter < clockTime hour minute localAfter offset

theorem nextClockTime_spec (positive : 0 ≤ localAfter) {remaining offset : Nat} {result : Option Int}
    (scanned : nextClockTime zone days hour minute localAfter remaining offset = .ok result) :
    (result = none ∧ ∀ ahead, offset ≤ ahead → ahead < offset + remaining → ¬Hits days hour minute localAfter ahead) ∨
    ∃ first next, result = some next ∧ offset ≤ first ∧ Hits days hour minute localAfter first ∧
      (∀ ahead, offset ≤ ahead → ahead < first → ¬Hits days hour minute localAfter ahead) ∧
      next = clockTime hour minute localAfter first - zone.offsetOf (clockTime hour minute localAfter first) := by
  induction remaining generalizing offset with
  | zero =>
    cases scanned
    exact .inl ⟨rfl, by omega⟩
  | succ remaining ih =>
    rw [nextClockTime] at scanned
    obtain ⟨shifted, within, rest⟩ := bind_eq_ok.mp scanned
    obtain ⟨-, rfl⟩ := checkedTime_eq_ok.mp within
    have candidate : Time.ofParts (Time.date (localAfter + offset * Time.day)) hour minute 0 0 =
        clockTime hour minute localAfter offset := by
      rw [ofParts_clock (by simp only [Time.day, Time.hour, Time.minute, Time.second]; omega), clockTime,
        Int.add_mul_ediv_right _ _ (by decide)]
    dsimp only at rest
    rw [candidate] at rest
    by_cases hits : Hits days hour minute localAfter offset
    · rw [if_pos ⟨by simpa using hits.1, hits.2⟩] at rest
      obtain ⟨next, converted, same⟩ := map_eq_ok.mp rest
      obtain ⟨-, rfl⟩ := checkedTime_eq_ok.mp converted
      exact .inr ⟨offset, _, same.symm, le_rfl, hits, by omega, rfl⟩
    · have misses : ¬((days.contains (Time.weekday (localAfter + offset * Time.day) : Int)) = true ∧
          localAfter < clockTime hour minute localAfter offset) :=
        fun both => hits ⟨by simpa using both.1, both.2⟩
      rw [if_neg misses] at rest
      rcases ih rest with ⟨none, clear⟩ | ⟨first, next, same, later, found, clear, time⟩
      · refine .inl ⟨none, ?_⟩
        intro ahead above below
        rcases Nat.eq_or_lt_of_le above with rfl | beyond
        · exact hits
        · exact clear ahead (by omega) (by omega)
      · refine .inr ⟨first, next, same, by omega, found, ?_, time⟩
        intro ahead above below
        rcases Nat.eq_or_lt_of_le above with rfl | beyond
        · exact hits
        · exact clear ahead (by omega) below

theorem weekday_shift {time : Int} (early : hour < 24) (few : minute < 60) (offset : Nat) :
    Time.weekday (clockTime hour minute time offset) = Time.weekday (time + offset * Time.day) := by
  have same : clockTime hour minute time offset / Time.day = (time + offset * Time.day) / Time.day := by
    simp only [clockTime, Time.day, Time.hour, Time.minute, Time.second]
    omega
  rw [Time.weekday, Time.weekday, Time.days, Time.days, same]

theorem clockTime_least (early : hour < 24) (few : minute < 60) {first : Nat}
    (hits : Hits days hour minute localAfter first)
    (clear : ∀ ahead, ahead < first → ¬Hits days hour minute localAfter ahead) :
    (Recurrence.clock days hour minute).FallsNext localAfter (clockTime hour minute localAfter first) := by
  constructor
  · refine ⟨⟨?_, ?_⟩, hits.2⟩
    · simp only [clockTime, Time.day, Time.hour, Time.minute, Time.second]
      omega
    · rw [weekday_shift early few]
      exact hits.1
  · rintro wall ⟨⟨clock, weekday⟩, ahead⟩
    by_contra before
    -- an earlier wall clock time would be that of an earlier day
    obtain ⟨offset, day⟩ : ∃ offset : Nat, wall / Time.day = localAfter / Time.day + offset := by
      refine ⟨(wall / Time.day - localAfter / Time.day).toNat, ?_⟩
      simp only [Time.day, Time.hour, Time.minute, Time.second]
      omega
    have time : clockTime hour minute localAfter offset = wall := by
      rw [clockTime, ← day, ← clock]
      exact Int.ediv_mul_add_emod wall Time.day
    have earlier : offset < first := by
      rw [← time] at before
      simp only [clockTime, Time.day, Time.hour, Time.minute, Time.second] at before
      omega
    refine clear offset earlier ⟨?_, ?_⟩
    · rw [← weekday_shift early few, time]
      exact weekday
    · rw [time]
      exact ahead

end

/-! ### The scan over minutes -/

section
variable {zone : Zone} {fields : CronFields}

theorem nextCronTime_spec {remaining : Nat} {candidate next : Int}
    (scanned : nextCronTime zone fields remaining candidate = .ok next) :
    ∃ first < remaining, cronMatches (candidate + first * Time.minute) fields = true ∧
      (∀ ahead < first, cronMatches (candidate + ahead * Time.minute) fields = false) ∧
      next = candidate + first * Time.minute - zone.offsetOf (candidate + first * Time.minute) := by
  induction remaining generalizing candidate with
  | zero => cases scanned
  | succ remaining ih =>
    rw [nextCronTime] at scanned
    split at scanned
    · next hits =>
      obtain ⟨-, rfl⟩ := checkedTime_eq_ok.mp scanned
      exact ⟨0, by omega, by simpa using hits, by omega, by simp⟩
    · next misses =>
      obtain ⟨later, within, rest⟩ := bind_eq_ok.mp scanned
      obtain ⟨-, rfl⟩ := checkedTime_eq_ok.mp within
      obtain ⟨first, few, hits, clear, time⟩ := ih rest
      have shift : ∀ n : Nat, candidate + Time.minute + n * Time.minute = candidate + (n + 1 : Nat) * Time.minute := by
        intro n
        simp only [Time.minute, Time.second]
        omega
      rw [shift] at hits time
      refine ⟨first + 1, by omega, hits, ?_, time⟩
      intro ahead before
      cases ahead with
      | zero => simpa using misses
      | succ ahead =>
        rw [← shift]
        exact clear ahead (by omega)

theorem cronTime_least {localAfter : Int} {first : Nat}
    (hits : cronMatches (localAfter / Time.minute * Time.minute + Time.minute + first * Time.minute) fields = true)
    (clear : ∀ ahead < first,
      cronMatches (localAfter / Time.minute * Time.minute + Time.minute + ahead * Time.minute) fields = false) :
    (Recurrence.cron fields).FallsNext localAfter
      (localAfter / Time.minute * Time.minute + Time.minute + first * Time.minute) := by
  constructor
  · refine ⟨⟨?_, hits⟩, ?_⟩
    · simp only [Time.minute, Time.second]
      omega
    · simp only [Time.minute, Time.second]
      omega
  · rintro wall ⟨⟨whole, falls⟩, ahead⟩
    by_contra before
    obtain ⟨offset, minute⟩ : ∃ offset : Nat,
        localAfter / Time.minute * Time.minute + Time.minute + offset * Time.minute = wall := by
      refine ⟨(wall / Time.minute - localAfter / Time.minute - 1).toNat, ?_⟩
      simp only [Time.minute, Time.second] at whole ⊢
      omega
    have earlier : offset < first := by
      rw [← minute] at before
      simp only [Time.minute, Time.second] at before
      omega
    have misses := clear offset earlier
    rw [minute] at misses
    rw [misses] at falls
    cases falls

end

theorem wholeSeconds_ge (delta : Nat) : delta / 1000000 ≤ Time.wholeSeconds delta := by
  have positive : 0 < 2 ^ (52 - Nat.log2 (delta / 1000000)) := Nat.two_pow_pos _
  unfold Time.wholeSeconds
  dsimp only
  generalize 2 ^ (52 - Nat.log2 (delta / 1000000)) = scale at positive
  have exact : delta * scale / 1000000 / scale = delta / 1000000 := by
    rw [Nat.div_div_eq_div_mul, Nat.mul_div_mul_right _ _ positive]
  rw [← exact]
  apply Nat.div_le_div_right
  split
  · exact le_rfl
  · exact Nat.le_succ _

theorem nextInterval_later {every start after next : Int} (period : 60 ≤ every)
    (found : nextInterval every start after = .ok next) : after < next := by
  unfold nextInterval at found
  split at found
  · next ahead =>
    cases found
    exact ahead
  · next reached =>
    obtain ⟨-, rfl⟩ := checkedTime_eq_ok.mp found
    have elapsed := wholeSeconds_ge (after - start).toNat
    generalize Time.wholeSeconds (after - start).toNat = seconds at elapsed
    have period : (seconds : Int) < (seconds / every + 1) * every := by
      have rest := Int.emod_lt_of_pos (seconds : Int) (by omega : 0 < every)
      have whole := Int.mul_ediv_add_emod (seconds : Int) every
      rw [Int.add_mul, Int.one_mul, Int.mul_comm (seconds / every)]
      omega
    have beyond : after < start + ((seconds : Int) + 1) * Time.second := by
      simp only [Time.second]
      omega
    have scaled : ((seconds : Int) + 1) * Time.second ≤ (seconds / every + 1) * every * Time.second :=
      Int.mul_le_mul_of_nonneg_right period (by decide)
    omega

/-! ### Strictly later -/

def Zone.Repeats (zone : Zone) (after wall : Int) : Prop :=
  after + zone.offsetAt after < wall ∧ wall - zone.offsetOf wall ≤ after

/-- The next wall clock time of the recurrence is not one that the clock shows again. -/
def Recurrence.Forward (zone : Zone) (after : Int) (recurrence : Recurrence) : Prop :=
  ∀ wall, recurrence.FallsNext (after + zone.offsetAt after) wall → ¬zone.Repeats after wall

theorem forward_iff {zone : Zone} {after wall : Int} {recurrence : Recurrence}
    (least : recurrence.FallsNext (after + zone.offsetAt after) wall) :
    after < wall - zone.offsetOf wall ↔ recurrence.Forward zone after := by
  constructor
  · rintro later other least' ⟨-, passed⟩
    rw [least'.unique least] at passed
    omega
  · intro forward
    by_contra passed
    exact forward wall least ⟨least.1.2, by omega⟩

theorem Recurrence.next_later {zone : Except WorkflowError Zone} {after next : Int} {recurrence : Recurrence}
    (proper : recurrence.Proper) (found : recurrence.next zone after = .ok (some next)) :
    after < next ↔ ∀ known, zone = .ok known → recurrence.Forward known after := by
  cases recurrence with
  | once at' =>
    have same : (if after < at' then some at' else none) = some next := Except.ok.inj found
    split at same
    · next later =>
      cases same
      exact iff_of_true later fun _ _ _ least => least.1.1.elim
    · cases same
  | interval every start =>
    obtain ⟨time, read, same⟩ := map_eq_ok.mp found
    cases same
    exact iff_of_true (nextInterval_later proper.1 read) fun _ _ _ least => least.1.1.elim
  | clock days hour minute =>
    obtain ⟨-, early, few⟩ := proper
    obtain ⟨known, rfl, rest⟩ := bind_eq_ok.mp found
    obtain ⟨localAfter, shown, scanned⟩ := bind_eq_ok.mp rest
    obtain ⟨inRange, rfl⟩ := checkedTime_eq_ok.mp shown
    simp only [Time.inRange, Bool.and_eq_true, decide_eq_true_eq] at inRange
    simp only [Except.ok.injEq, forall_eq']
    rcases nextClockTime_spec inRange.1 scanned with ⟨none, -⟩ | ⟨first, time, same, -, hits, clear, rfl⟩
    · cases none
    · cases same
      exact forward_iff (clockTime_least early few hits fun ahead before => clear ahead (Nat.zero_le _) before)
  | cron fields =>
    obtain ⟨known, rfl, rest⟩ := bind_eq_ok.mp found
    obtain ⟨localAfter, shown, rest⟩ := bind_eq_ok.mp rest
    obtain ⟨-, rfl⟩ := checkedTime_eq_ok.mp shown
    obtain ⟨candidate, within, scanned⟩ := bind_eq_ok.mp rest
    obtain ⟨-, rfl⟩ := checkedTime_eq_ok.mp within
    obtain ⟨time, read, same⟩ := map_eq_ok.mp scanned
    cases same
    simp only [Except.ok.injEq, forall_eq']
    obtain ⟨first, -, hits, clear, rfl⟩ := nextCronTime_spec read
    exact forward_iff (cronTime_least hits clear)

def typeName (platform : Platform) (fields : Fields) : String :=
  lower (strip (operand platform.spelling fields "type" "manual"))

/-- The schedule, at an instant: what it says next is not shown again by its clock. -/
def Ahead (platform : Platform) (value : Json) (after : Int) : Prop :=
  ∀ fields recurrence zone, value = .obj fields → Recurrence.Said platform fields (typeName platform fields) recurrence →
    storedZone platform fields = .ok zone → recurrence.Forward zone after

theorem nextScheduleTime_later {platform : Platform} {value : Json} {schedule : Option Fields} {after next : Int}
    (accepted : validateSchedule platform value = .ok schedule)
    (found : nextScheduleTime platform value after = .ok (some next)) : after < next ↔ Ahead platform value after := by
  cases schedule with
  | none =>
    rw [nextScheduleTime, accepted] at found
    cases found
  | some stored =>
    obtain ⟨fields, recurrence, rfl, said, computed⟩ := validateSchedule_said accepted
    rw [computed] at found
    rw [Recurrence.next_later said.proper found]
    constructor
    · rintro forward other recurrence' zone same said' zoned
      cases same
      rw [said'.unique said]
      exact forward zone zoned
    · exact fun ahead zone zoned => ahead fields recurrence zone rfl said zoned

/-- The times of a schedule, each the next one after the last, as the scheduler asks for them. -/
inductive Successive (platform : Platform) (value : Json) : Int → List Int → Prop where
  | nil {after : Int} : Successive platform value after []
  | cons {after next : Int} {times : List Int} (found : nextScheduleTime platform value after = .ok (some next))
      (ahead : Ahead platform value after) (later : Successive platform value next times) :
      Successive platform value after (next :: times)

/-- The next time is strictly later exactly when the wall clock time it stands for is not a repeated one, and
such times never repeat and never go back. -/
theorem next_time_later {platform : Platform} {value : Json} {schedule : Option Fields}
    (accepted : validateSchedule platform value = .ok schedule) :
    (∀ after next, nextScheduleTime platform value after = .ok (some next) →
      (after < next ↔ Ahead platform value after)) ∧
    ∀ after times, Successive platform value after times → (after :: times).Pairwise (· < ·) := by
  constructor
  · exact fun after next found => nextScheduleTime_later accepted found
  · intro after times successive
    induction successive with
    | nil => exact List.pairwise_singleton ..
    | cons found ahead later ih =>
      have step := (nextScheduleTime_later accepted found).mpr ahead
      refine List.pairwise_cons.mpr ⟨?_, ih⟩
      intro time member
      rcases List.mem_cons.mp member with rfl | beyond
      · exact step
      · exact step.trans ((List.pairwise_cons.mp ih).1 time beyond)

def autumnChange : Int := Time.ofParts ⟨2024, 10, 27⟩ 1 0 0 0

def berlin : Zone where
  offsetAt := fun time => if time < autumnChange then 2 * Time.hour else Time.hour
  offsetOf := fun wall => if wall < autumnChange + 2 * Time.hour then 2 * Time.hour else Time.hour

def berlinPlatform : Platform where
  spelling := ⟨fun _ => "0.0", fun _ => ""⟩
  zones := fun name => if name = "Europe/Berlin" then some berlin else none

def nightly : Json :=
  .obj [("type", .str "daily"), ("time", .str "02:30"), ("timezone", .str "Europe/Berlin")]

/-- At ten past two, for the second time that night, the next half past two is that of the first time. -/
theorem nightly_goes_back :
    (∃ schedule, validateSchedule berlinPlatform nightly = .ok (some schedule)) ∧
      nextScheduleTime berlinPlatform nightly (autumnChange + 10 * Time.minute) =
        .ok (some (autumnChange - 30 * Time.minute)) := by
  refine ⟨⟨[("type", .str "daily"), ("timezone", .str "Europe/Berlin"), ("time", .str "02:30")], ?_⟩, ?_⟩
  · decide
  · decide +kernel

/-- An hour and a half before the change, the next time is half past two of the first pass. -/
theorem next_time_later_nightly : Ahead berlinPlatform nightly (autumnChange - 90 * Time.minute) ∧
    [autumnChange - 90 * Time.minute, autumnChange - 30 * Time.minute].Pairwise (· < ·) := by
  have accepted : validateSchedule berlinPlatform nightly = .ok (some
      [("type", .str "daily"), ("timezone", .str "Europe/Berlin"), ("time", .str "02:30")]) := by decide
  have found : nextScheduleTime berlinPlatform nightly (autumnChange - 90 * Time.minute) =
      .ok (some (autumnChange - 30 * Time.minute)) := by decide +kernel
  obtain ⟨later, successive⟩ := next_time_later accepted
  have ahead := (later _ _ found).mp (by decide)
  exact ⟨ahead, successive _ _ (.cons found ahead .nil)⟩

end Operly.Workflow
