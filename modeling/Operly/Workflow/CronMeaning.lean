import Operly.Workflow.Recurrence

/-! Cron expressions: the numbers that a field lists, and the times that five fields describe. -/

namespace Operly.Workflow
open Python

/-! ### Fields -/

inductive SegmentStep : String → String → Int → Prop where
  | every {base : String} (plain : '/' ∉ base.toList) : SegmentStep base base 1
  | each {base text : String} {step : Int} (plain : '/' ∉ base.toList) (read : parseInt text = some step)
      (positive : 1 ≤ step) : SegmentStep (base ++ "/" ++ text) base step

inductive BaseRange (minimum maximum : Int) : String → Int → Int → Prop where
  | any : BaseRange minimum maximum "*" minimum maximum
  | between {first last : String} {start stop : Int} (plain : '-' ∉ first.toList) (from_ : parseInt first = some start)
      (until_ : parseInt last = some stop) : BaseRange minimum maximum (first ++ "-" ++ last) start stop
  | only {base : String} {value : Int} (plain : '-' ∉ base.toList) (read : parseInt base = some value) :
      BaseRange minimum maximum base value value

/-- The field lists the number: a segment of it reaches the number in its steps. -/
def Lists (minimum maximum : Int) (token : String) (value : Int) : Prop :=
  ∃ segment ∈ split ',' token, ∃ base start stop step, SegmentStep segment base step ∧
    BaseRange minimum maximum base start stop ∧ start ≤ value ∧ value ≤ stop ∧ step ∣ value - start

theorem contains_char (text : String) (c : Char) : contains text (String.singleton c) = true ↔ c ∈ text.toList := by
  have single : (String.singleton c).toList = [c] := by simp
  have every : ∀ chars : List Char, isInfix [c] chars = true ↔ c ∈ chars := by
    intro chars
    induction chars with
    | nil => simp [isInfix]
    | cons head rest ih => simp [isInfix, ih, List.isPrefixOf]
  rw [contains, single, every]

theorem splitOnce_append {c : Char} {base : String} (plain : c ∉ base.toList) (text : String) :
    splitOnce c (base ++ String.singleton c ++ text) = (base, text) := by
  have shape : (base ++ String.singleton c ++ text).toList = base.toList ++ c :: text.toList := by simp
  have before : (base.toList ++ c :: text.toList).takeWhile (· ≠ c) = base.toList := by
    have kept : ∀ d ∈ base.toList, decide (d ≠ c) = true := by
      intro d member
      have other : d ≠ c := fun same => plain (same ▸ member)
      simpa using other
    rw [List.takeWhile_append_of_pos kept]
    simp
  simp only [splitOnce, shape, before]
  simp

theorem splitOnce_spec {c : Char} {text : String} (held : c ∈ text.toList) :
    ∃ base rest, splitOnce c text = (base, rest) ∧ text = base ++ String.singleton c ++ rest ∧ c ∉ base.toList := by
  obtain ⟨before, after, shape, plain⟩ := List.eq_append_cons_of_mem held
  have whole : text = String.ofList before ++ String.singleton c ++ String.ofList after := by
    rw [← String.toList_inj, shape]
    simp
  have absent : c ∉ (String.ofList before).toList := by simpa using plain
  exact ⟨_, _, by rw [whole, splitOnce_append absent], whole, absent⟩

section
variable {minimum maximum : Int}

theorem notMem_slash {text : String} (plain : '/' ∉ text.toList) : contains text "/" = false := by
  rw [← Bool.not_eq_true]
  exact fun held => plain ((contains_char text '/').mp held)

variable {segment base : String} {step : Int} {values : List Int}

theorem cronSegment_base (stepped : SegmentStep segment base step) :
    cronSegment minimum maximum segment = (do
      let (start, stop) ← if base = "*" then pure (minimum, maximum)
        else if contains base "-" then do
          let (rawStart, rawStop) := splitOnce '-' base
          let start ← cronNumber rawStart
          let stop ← cronNumber rawStop
          pure (start, stop)
        else do
          let only ← cronNumber base
          pure (only, only)
      if start < minimum ∨ maximum < stop ∨ stop < start then throw cronFieldError
      return (List.range ((stop - start) / step + 1).toNat).map fun n => start + n * step) := by
  cases stepped with
  | every plain =>
    rw [cronSegment, notMem_slash plain]
    rfl
  | @each _ text _ plain read positive =>
    have held : contains (base ++ "/" ++ text) "/" = true := (contains_char _ '/').mpr (by simp)
    have parts : splitOnce '/' (base ++ "/" ++ text) = (base, text) := splitOnce_append plain text
    have number : cronNumber text = .ok step := by rw [cronNumber, read]
    rw [cronSegment, held, if_pos rfl, parts]
    simp only [number]
    show (if step < 1 then _ else _) = _
    rw [if_neg (by omega)]
    rfl

theorem cronSegment_eq {start stop : Int} (stepped : SegmentStep segment base step)
    (ranged : BaseRange minimum maximum base start stop) : cronSegment minimum maximum segment =
      if start < minimum ∨ maximum < stop ∨ stop < start then .error cronFieldError
      else .ok ((List.range ((stop - start) / step + 1).toNat).map fun n : Nat => start + n * step) := by
  have lifted : ((List.range ((stop - start) / step + 1).toNat).map fun n => start + n * step) =
      (List.range ((stop - start) / step + 1).toNat).map fun n : Nat => start + n * step := by
    simp [List.map_eq_flatMap, List.flatMap_assoc]
  have checked : ∀ values : List Int, (do
      if start < minimum ∨ maximum < stop ∨ stop < start then throw cronFieldError
      return values : Except WorkflowError (List Int)) =
        if start < minimum ∨ maximum < stop ∨ stop < start then .error cronFieldError else .ok values := by
    intro values
    split
    · rfl
    · rfl
  rw [cronSegment_base stepped, ← checked, ← lifted]
  cases ranged with
  | any => rfl
  | @between first last start stop plain from_ until_ =>
    have named : first ++ "-" ++ last ≠ "*" := by
      intro same
      have lists := congrArg String.toList same
      simp only [String.toList_append] at lists
      cases shape : first.toList with
      | nil => simp [shape] at lists
      | cons c rest => simp [shape] at lists
    have held : contains (first ++ "-" ++ last) "-" = true := (contains_char _ '-').mpr (by simp)
    have parts : splitOnce '-' (first ++ "-" ++ last) = (first, last) := splitOnce_append plain last
    have number : cronNumber first = .ok start := by rw [cronNumber, from_]
    have number' : cronNumber last = .ok stop := by rw [cronNumber, until_]
    rw [if_neg named, held, if_pos rfl, parts]
    simp only [number, number']
    rfl
  | @only _ value plain read =>
    have named : base ≠ "*" := by
      rintro rfl
      have none : parseInt "*" = none := by decide
      rw [none] at read
      cases read
    have absent : ¬contains base "-" = true := fun held => plain ((contains_char base '-').mp held)
    have number : cronNumber base = .ok start := by rw [cronNumber, read]
    rw [if_neg named, if_neg absent]
    simp only [number]
    rfl

theorem cronNumber_eq_ok {text : String} {number : Int} (read : cronNumber text = .ok number) :
    parseInt text = some number := by
  unfold cronNumber at read
  split at read
  · next value held =>
    cases read
    exact held
  · cases read

theorem segmentStep_of_ok (parsed : cronSegment minimum maximum segment = .ok values) :
    ∃ base step, SegmentStep segment base step ∧ 1 ≤ step := by
  by_cases held : '/' ∈ segment.toList
  · obtain ⟨base, text, parts, whole, plain⟩ := splitOnce_spec held
    have slash : contains segment "/" = true := (contains_char segment '/').mpr held
    rw [cronSegment, slash, if_pos rfl, parts] at parsed
    obtain ⟨step, read, rest⟩ := bind_eq_ok.mp parsed
    have positive : 1 ≤ step := by
      by_contra low
      have refused : step < 1 := by omega
      simp only [refused, if_true] at rest
      cases rest
    exact ⟨base, step, whole ▸ .each plain (cronNumber_eq_ok read) positive, positive⟩
  · exact ⟨segment, 1, .every held, le_rfl⟩

theorem baseRange_of_ok (stepped : SegmentStep segment base step)
    (parsed : cronSegment minimum maximum segment = .ok values) :
    ∃ start stop, BaseRange minimum maximum base start stop := by
  rw [cronSegment_base stepped] at parsed
  by_cases any : base = "*"
  · exact ⟨minimum, maximum, any ▸ BaseRange.any⟩
  · rw [if_neg any] at parsed
    by_cases held : '-' ∈ base.toList
    · obtain ⟨first, last, parts, whole, plain⟩ := splitOnce_spec held
      have dash : contains base "-" = true := (contains_char base '-').mpr held
      rw [dash, if_pos rfl, parts] at parsed
      obtain ⟨start, read, rest⟩ := bind_eq_ok.mp parsed
      obtain ⟨stop, read', -⟩ := bind_eq_ok.mp rest
      exact ⟨start, stop, whole ▸ .between plain (cronNumber_eq_ok read) (cronNumber_eq_ok read')⟩
    · have absent : ¬contains base "-" = true := fun dash => held ((contains_char base '-').mp dash)
      rw [if_neg absent] at parsed
      obtain ⟨value, read, -⟩ := bind_eq_ok.mp parsed
      exact ⟨value, value, .only held (cronNumber_eq_ok read)⟩

theorem SegmentStep.positive (stepped : SegmentStep segment base step) : 1 ≤ step := by
  cases stepped with
  | every _ => exact le_rfl
  | each _ _ positive => exact positive

theorem mem_steps {start stop value : Int} (positive : 1 ≤ step) (ordered : start ≤ stop) :
    value ∈ (List.range ((stop - start) / step + 1).toNat).map (fun n : Nat => start + n * step) ↔
      start ≤ value ∧ value ≤ stop ∧ step ∣ value - start := by
  have turns : 0 ≤ (stop - start) / step := Int.ediv_nonneg (by omega) (by omega)
  rw [List.mem_map]
  constructor
  · rintro ⟨n, member, rfl⟩
    have few : (n : Int) ≤ (stop - start) / step := by
      have below := List.mem_range.mp member
      omega
    have within : (n : Int) * step ≤ stop - start := (Int.le_ediv_iff_mul_le (by omega)).mp few
    have forward : 0 ≤ (n : Int) * step := Int.mul_nonneg (by omega) (by omega)
    refine ⟨by omega, by omega, n, ?_⟩
    rw [add_sub_cancel_left, Int.mul_comm]
  · rintro ⟨above, below, n, steps⟩
    have forward : 0 ≤ n := by
      by_contra negative
      have backward : step * n < 0 := Int.mul_neg_of_pos_of_neg (by omega) (by omega)
      omega
    have few : n ≤ (stop - start) / step := by
      apply (Int.le_ediv_iff_mul_le (by omega)).mpr
      rw [Int.mul_comm]
      omega
    refine ⟨n.toNat, List.mem_range.mpr (by omega), ?_⟩
    rw [Int.toNat_of_nonneg forward, Int.mul_comm, ← steps]
    omega

theorem mem_cronSegment (parsed : cronSegment minimum maximum segment = .ok values) (value : Int) :
    value ∈ values ↔ ∃ base start stop step, SegmentStep segment base step ∧
      BaseRange minimum maximum base start stop ∧ start ≤ value ∧ value ≤ stop ∧ step ∣ value - start := by
  have listed : ∀ {base : String} {start stop step : Int}, SegmentStep segment base step →
      BaseRange minimum maximum base start stop →
        (value ∈ values ↔ start ≤ value ∧ value ≤ stop ∧ step ∣ value - start) := by
    intro base start stop step stepped ranged
    rw [cronSegment_eq stepped ranged] at parsed
    obtain ⟨within, same⟩ := check_eq_ok.mp parsed
    have ordered : start ≤ stop := by omega
    rw [← Except.ok.inj same]
    exact mem_steps stepped.positive ordered
  constructor
  · intro member
    obtain ⟨base, step, stepped, -⟩ := segmentStep_of_ok parsed
    obtain ⟨start, stop, ranged⟩ := baseRange_of_ok stepped parsed
    exact ⟨base, start, stop, step, stepped, ranged, (listed stepped ranged).mp member⟩
  · rintro ⟨base, start, stop, step, stepped, ranged, known⟩
    exact (listed stepped ranged).mpr known

theorem cronSegment_bounds (parsed : cronSegment minimum maximum segment = .ok values) :
    ∀ value ∈ values, minimum ≤ value ∧ value ≤ maximum := by
  intro value member
  obtain ⟨base, start, stop, step, stepped, ranged, above, below, -⟩ := (mem_cronSegment parsed value).mp member
  rw [cronSegment_eq stepped ranged] at parsed
  obtain ⟨within, -⟩ := check_eq_ok.mp parsed
  omega

theorem mem_cronValues {token : String} (parsed : cronValues token minimum maximum = .ok values) (value : Int) :
    (value ∈ values ↔ Lists minimum maximum token value) ∧ (value ∈ values → minimum ≤ value ∧ value ≤ maximum) := by
  obtain ⟨lists, mapped, rfl⟩ := map_eq_ok.mp parsed
  have each := mapM_eq_ok mapped
  rw [List.mem_flatten, Lists]
  clear mapped parsed
  generalize split ',' token = segments at each ⊢
  induction each with
  | nil => simp
  | cons first _ ih =>
    simp only [List.exists_mem_cons_iff]
    rw [mem_cronSegment first value, ih.1]
    refine ⟨Iff.rfl, ?_⟩
    rintro (known | known)
    · exact cronSegment_bounds first value ((mem_cronSegment first value).mpr known)
    · exact ih.2 (ih.1.mpr known)

theorem contains_cronValues {token : String} (parsed : cronValues token minimum maximum = .ok values) (value : Int) :
    values.contains value = true ↔ Lists minimum maximum token value := by
  rw [List.contains_iff_mem, (mem_cronValues parsed value).1]

end

structure CronTokens where
  minute : String
  hour : String
  day : String
  month : String
  weekday : String

namespace CronTokens

def OnDay (tokens : CronTokens) (time : Int) : Prop := Lists 1 31 tokens.day (Time.date time).day

def OnWeekday (tokens : CronTokens) (time : Int) : Prop :=
  ∃ number, Lists 0 7 tokens.weekday number ∧ number % 7 = ((Time.weekday time + 1 : Nat) : Int) % 7

/-- The fields describe the time; of two restricted day fields, either will do. -/
def Describe (tokens : CronTokens) (time : Int) : Prop :=
  Lists 0 59 tokens.minute (Time.minuteOf time) ∧ Lists 0 23 tokens.hour (Time.hourOf time) ∧
    Lists 1 12 tokens.month (Time.date time).month ∧
      if tokens.day ≠ "*" ∧ tokens.weekday ≠ "*" then tokens.OnDay time ∨ tokens.OnWeekday time
      else tokens.OnDay time ∧ tokens.OnWeekday time

end CronTokens

def tokensOf (expression : String) : Option CronTokens :=
  match words expression with
  | [minute, hour, day, month, weekday] => some ⟨minute, hour, day, month, weekday⟩
  | _ => none

theorem parseCron_matches {expression : String} {fields : CronFields} (parsed : parseCron expression = .ok fields) :
    ∃ tokens, tokensOf expression = some tokens ∧ ∀ time, cronMatches time fields = true ↔ tokens.Describe time := by
  unfold parseCron at parsed
  split at parsed
  · next minute hour day month weekday shape =>
    obtain ⟨minutes, readMinutes, rest⟩ := bind_eq_ok.mp parsed
    obtain ⟨hours, readHours, rest⟩ := bind_eq_ok.mp rest
    obtain ⟨days, readDays, rest⟩ := bind_eq_ok.mp rest
    obtain ⟨months, readMonths, rest⟩ := bind_eq_ok.mp rest
    obtain ⟨weekdays, readWeekdays, same⟩ := bind_eq_ok.mp rest
    cases pure_eq_ok.mp same
    refine ⟨⟨minute, hour, day, month, weekday⟩, by rw [tokensOf, shape], ?_⟩
    intro time
    have onWeekday : (weekdays.map fun item => if item = 7 then 0 else item).contains
        (((Time.weekday time + 1) % 7 : Nat) : Int) = true ↔
          ∃ number, Lists 0 7 weekday number ∧ number % 7 = ((Time.weekday time + 1 : Nat) : Int) % 7 := by
      rw [List.contains_iff_mem, List.mem_map]
      apply exists_congr
      intro number
      rw [← (mem_cronValues readWeekdays number).1]
      apply and_congr_right
      intro member
      obtain ⟨above, below⟩ := (mem_cronValues readWeekdays number).2 member
      split <;> omega
    have onDay : days.contains (((Time.date time).day : Nat) : Int) = true ↔ Lists 1 31 day (Time.date time).day := by
      rw [contains_cronValues readDays]
    rw [cronMatches]
    dsimp only
    rw [Bool.and_eq_true, Bool.and_eq_true, Bool.and_eq_true, contains_cronValues readMinutes,
      contains_cronValues readHours, contains_cronValues readMonths, and_assoc, and_assoc]
    refine and_congr_right fun _ => and_congr_right fun _ => and_congr_right fun _ => ?_
    by_cases both : day ≠ "*" ∧ weekday ≠ "*"
    · have restricted : (!decide (day = "*") && !decide (weekday = "*")) = true := by simpa using both
      rw [if_pos restricted, if_pos both, Bool.or_eq_true, onDay, onWeekday]
      rfl
    · have free : ¬(!decide (day = "*") && !decide (weekday = "*")) = true := by simpa using both
      rw [if_neg free, if_neg both, Bool.and_eq_true, onDay, onWeekday]
      rfl
  · cases parsed

end Operly.Workflow
