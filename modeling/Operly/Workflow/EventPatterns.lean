import Operly.Python.Affixes
import Operly.Python.Exceptions
import Operly.Workflow.Triggers

/-! The grammar of event patterns and the events that each one stands for, against what normalization accepts
and what matching computes. -/

namespace Operly.Workflow
open Python

def DottedName (name : String) : Prop := "" ∉ split '.' name ∧ '*' ∉ name.toList

inductive Denotes : String → Set String → Prop where
  | all : Denotes "*" Set.univ
  | exactly {name : String} (dotted : DottedName name) : Denotes name {name}
  | under {name : String} (dotted : DottedName name) :
      Denotes (name ++ ".*") {event | startsWith event (name ++ ".") = true}

def Lifecycle (event : String) : Prop := startsWith event "workflow." = true

/-- A pattern of the grammar. The lone wildcard leaves lifecycle events to the matching. -/
def Acceptable (pattern : String) : Prop :=
  pattern.length ≤ 160 ∧ ∃ events, Denotes pattern events ∧ (pattern = "*" ∨ ∀ event ∈ events, ¬ Lifecycle event)

/-- What normalization and matching owe to a pattern as it is given. -/
structure PatternContract (value : String) : Prop where
  accepts : (∃ pattern, normalizeEventPattern value = .ok pattern) ↔ Acceptable (lower (strip value))
  idempotent : ∀ pattern, normalizeEventPattern value = .ok pattern → normalizeEventPattern pattern = .ok pattern
  matching : ∀ pattern, normalizeEventPattern value = .ok pattern → ∀ eventType, ∃ matched,
    eventMatchesPattern eventType value = .ok matched ∧ ∀ events, Denotes pattern events →
      (matched = true ↔ lower (strip eventType) ∈ events ∧ ¬ Lifecycle (lower (strip eventType)))

def InnerWildcard (pattern : String) : Prop :=
  ∃ front, pattern = front ++ ".*" ∧ "" ∉ split '.' front ∧ '*' ∈ front.toList ∧ pattern.length ≤ 160 ∧
    ¬ Lifecycle pattern

/-! ### What normalization checks -/

theorem split_wildcard (front : String) : split '.' (front ++ ".*") = split '.' front ++ ["*"] := by
  have shape : (front ++ ".*").toList = front.toList ++ '.' :: ['*'] := by simp
  rw [split, split, shape, splitChars_append, List.map_append]
  rfl

theorem wildcardProper_append (front : String) : wildcardProper (front ++ ".*") = true ↔ "" ∉ split '.' front := by
  have cut : String.ofList ((front ++ ".*").toList.take ((front ++ ".*").toList.length - 2)) = front :=
    take_append_left front ".*"
  have present : "" ∉ split '.' front → front ≠ "" := by
    rintro proper rfl
    exact absurd proper (by decide)
  simp only [wildcardProper, cut, Bool.and_eq_true, decide_eq_true_eq, Bool.not_eq_true', List.any_eq_false]
  constructor
  · rintro ⟨-, proper⟩ empty
    exact proper "" empty rfl
  · intro proper
    exact ⟨present proper, fun part member same => proper (same ▸ member)⟩

def dotsApart (pattern : String) : Bool :=
  !(contains pattern ".." || startsWith pattern "." || endsWith pattern ".")

variable {pattern name : String}

theorem dotsApart_iff (present : pattern ≠ "") : dotsApart pattern = true ↔ "" ∉ split '.' pattern := by
  have nonempty : pattern.toList ≠ [] := by simpa using present
  have opening : startsWith pattern "." = true ↔ pattern.toList.head? = some '.' := by
    rw [startsWith_iff]
    cases pattern.toList <;> simp [List.cons_prefix_cons, eq_comm]
  have closing : endsWith pattern "." = true ↔ pattern.toList.getLast? = some '.' := by
    rw [endsWith_iff]
    simp [List.singleton_suffix_iff_getLast?_eq_some]
  have twice : contains pattern ".." = true ↔ ['.', '.'] <:+: pattern.toList := contains_iff
  rw [split_nonempty_iff, parts_nonempty_iff, dotsApart, Bool.not_eq_true', Bool.or_eq_false_iff,
    Bool.or_eq_false_iff, ← Bool.not_eq_true, ← Bool.not_eq_true, ← Bool.not_eq_true, opening, closing, twice]
  tauto

theorem DottedName.ne_empty (dotted : DottedName name) : name ≠ "" := by
  rintro rfl
  exact absurd dotted.1 (by decide)

theorem DottedName.plain (dotted : DottedName name) : endsWith name ".*" = false := by
  rw [← Bool.not_eq_true]
  intro ends
  obtain ⟨front, rfl⟩ := exists_of_endsWith ends
  exact dotted.2 (by simp)

theorem append_wildcard_ne (front : String) : front ++ ".*" ≠ "*" := by
  intro same
  have length := congrArg (·.toList.length) same
  simp at length

theorem lifecycle_wildcard : Lifecycle "workflow.*" := startsWith_append "workflow." "*"

theorem checkEventPattern_checks (present : pattern ≠ "") (several : pattern ≠ "*") :
    checkEventPattern pattern = .ok () ↔ pattern.length ≤ 160 ∧ ¬ Lifecycle pattern ∧ dotsApart pattern = true ∧
      (endsWith pattern ".*" = true → wildcardProper pattern = true) ∧
      (endsWith pattern ".*" = false → '*' ∉ pattern.toList) := by
  have star : contains pattern "*" = true ↔ '*' ∈ pattern.toList := by
    rw [contains_iff]
    simp [List.singleton_infix_iff]
  have reserved : (decide (pattern = "workflow.*") || startsWith pattern "workflow.") = true ↔ Lifecycle pattern := by
    rw [Bool.or_eq_true, decide_eq_true_eq]
    exact ⟨fun either => either.elim (fun same => same ▸ lifecycle_wildcard) id, .inr⟩
  have sized : ¬ (pattern = "" ∨ 160 < pattern.toList.length) ↔ pattern.length ≤ 160 := by
    simp [present, String.length_toList]
  rw [checkEventPattern, check_eq_ok, sized, if_neg several, check_eq_ok, check_eq_ok, check_eq_ok, check_eq_ok,
    reserved, ← star, dotsApart]
  generalize (contains pattern ".." || startsWith pattern "." || endsWith pattern ".") = dotted
  cases endsWith pattern ".*" <;> cases dotted <;> simp [and_comm, and_left_comm]

theorem checkEventPattern_iff : checkEventPattern pattern = .ok () ↔
    pattern.length ≤ 160 ∧ (pattern = "*" ∨ ¬ Lifecycle pattern ∧
      (DottedName pattern ∨ ∃ front, pattern = front ++ ".*" ∧ "" ∉ split '.' front)) := by
  by_cases empty : pattern = ""
  · subst empty
    have unnamed : ¬ DottedName "" := fun dotted => dotted.ne_empty rfl
    have bare : ∀ front, "" ≠ front ++ ".*" := fun front same => by simpa using congrArg String.toList same
    simp [checkEventPattern, unnamed, bare]
  by_cases lone : pattern = "*"
  · subst lone
    exact iff_of_true rfl ⟨by decide, .inl rfl⟩
  rw [checkEventPattern_checks empty lone, dotsApart_iff empty]
  simp only [lone, false_or]
  refine and_congr_right fun _ => and_congr_right fun _ => ?_
  cases ends : endsWith pattern ".*" with
  | false =>
    have whole : ∀ front, pattern ≠ front ++ ".*" := fun front same => by
      rw [same, endsWith_append] at ends
      cases ends
    simp [DottedName, whole]
  | true =>
    obtain ⟨front, rfl⟩ := exists_of_endsWith ends
    have starred : ¬ DottedName (front ++ ".*") := fun dotted => dotted.2 (by simp)
    simp only [wildcardProper_append, split_wildcard, starred, false_or]
    constructor
    · rintro ⟨-, proper, -⟩
      exact ⟨front, rfl, proper trivial⟩
    · rintro ⟨front', same, proper⟩
      have equal : front = front' := (String.append_left_inj _).mp same
      exact ⟨by simpa [equal] using proper, fun _ => equal ▸ proper, nofun⟩

theorem normalizeEventPattern_accepts {value : String} :
    (∃ pattern, normalizeEventPattern value = .ok pattern) ↔ checkEventPattern (lower (strip value)) = .ok () := by
  constructor
  · rintro ⟨pattern, accepted⟩
    obtain ⟨same, checked⟩ := normalizeEventPattern_eq accepted
    exact same ▸ checked
  · intro checked
    exact ⟨_, map_eq_ok.mpr ⟨(), checked, rfl⟩⟩

theorem prefix_workflow {start : List Char} (within : start <+: "workflow.".toList)
    (dotted : start.getLast? = some '.') : start = "workflow.".toList := by
  have all : ∀ start ∈ "workflow.".toList.inits, start.getLast? = some '.' → start = "workflow.".toList := by decide
  exact all start ((List.mem_inits _ _).mpr within) dotted

theorem lifecycle_under :
    (∀ event, startsWith event (name ++ ".") = true → ¬ Lifecycle event) ↔ ¬ Lifecycle (name ++ ".*") := by
  constructor
  · intro none
    exact none _ (by rw [show name ++ ".*" = name ++ "." ++ "*" by rw [String.append_assoc]; rfl]; exact startsWith_append _ _)
  · intro plain event under internal
    apply plain
    rw [startsWith_iff] at under
    rw [Lifecycle, startsWith_iff] at internal ⊢
    have dots : (name ++ ".*").toList = (name ++ ".").toList ++ ['*'] := by simp
    rw [dots]
    rcases List.prefix_or_prefix_of_prefix under internal with shorter | longer
    · rw [prefix_workflow shorter (by simp)]
      exact List.prefix_append _ _
    · exact longer.trans (List.prefix_append _ _)

theorem acceptable_iff : Acceptable pattern ↔ pattern.length ≤ 160 ∧ (pattern = "*" ∨
    ¬ Lifecycle pattern ∧ (DottedName pattern ∨ ∃ name, pattern = name ++ ".*" ∧ DottedName name)) := by
  refine and_congr_right fun _ => ?_
  constructor
  · rintro ⟨events, denotes, plain⟩
    cases denotes with
    | all => exact .inl rfl
    | exactly dotted => exact .inr ⟨plain.resolve_left (fun same => dotted.2 (by simp [same])) pattern rfl, .inl dotted⟩
    | @under name dotted =>
      refine plain.imp_right fun quiet => ⟨lifecycle_under.mp quiet, .inr ⟨name, rfl, dotted⟩⟩
  · rintro (lone | ⟨plain, dotted | ⟨name, shape, dotted⟩⟩)
    · exact ⟨Set.univ, lone ▸ .all, .inl lone⟩
    · refine ⟨{pattern}, .exactly dotted, .inr fun event same => ?_⟩
      rwa [Set.mem_singleton_iff.mp same]
    · subst shape
      exact ⟨_, .under dotted, .inr (lifecycle_under.mpr plain)⟩

theorem matchesNormal_denotes {eventType : String} {events : Set String} (denotes : Denotes pattern events) :
    matchesNormal eventType pattern = true ↔
      lower (strip eventType) ∈ events ∧ ¬ Lifecycle (lower (strip eventType)) := by
  simp only [matchesNormal]
  by_cases internal : Lifecycle (lower (strip eventType))
  · exact iff_of_false (by simp [show startsWith _ "workflow." = true from internal]) fun both => both.2 internal
  rw [if_neg (show ¬ startsWith _ "workflow." = true from internal), and_iff_left internal]
  cases denotes with
  | all => simp
  | exactly dotted =>
    have several : pattern ≠ "*" := fun same => dotted.2 (by simp [same])
    simp [several, dotted.plain]
  | @under name dotted =>
    have cut : String.ofList ((name ++ ".*").toList.take ((name ++ ".*").toList.length - 1)) = name ++ "." := by
      have shape : name ++ ".*" = name ++ "." ++ "*" := by rw [String.append_assoc]; rfl
      rw [shape]
      exact take_append_left (name ++ ".") "*"
    rw [if_neg (append_wildcard_ne name), if_pos (endsWith_append name ".*"), cut]
    rfl

/-- An event pattern is read as its grammar says unless an inner wildcard precedes the trailing one. -/
theorem patternContract_iff {value : String} : PatternContract value ↔ ¬ InnerWildcard (lower (strip value)) := by
  constructor
  · rintro contract ⟨front, shape, proper, starred, short, plain⟩
    have accepted := normalizeEventPattern_accepts.mpr
      (checkEventPattern_iff.mpr ⟨short, .inr ⟨plain, .inr ⟨front, shape, proper⟩⟩⟩)
    obtain ⟨-, lone | ⟨-, dotted | ⟨name, same, dotted⟩⟩⟩ := acceptable_iff.mp (contract.accepts.mp accepted)
    · exact append_wildcard_ne front (shape.symm.trans lone)
    · exact dotted.2 (by simp [shape])
    · have equal : front = name := (String.append_left_inj _).mp (shape.symm.trans same)
      exact dotted.2 (equal ▸ starred)
  · intro trailing
    refine ⟨?_, fun pattern => normalizeEventPattern_idem, fun pattern accepted eventType => ?_⟩
    · rw [normalizeEventPattern_accepts, checkEventPattern_iff, acceptable_iff]
      refine and_congr_right fun short => or_congr_right <| and_congr_right fun plain => or_congr_right ?_
      refine exists_congr fun front => and_congr_right fun shape => ?_
      rw [DottedName, iff_self_and]
      exact fun proper starred => trailing ⟨front, shape, proper, starred, short, plain⟩
    · refine ⟨matchesNormal eventType pattern, ?_, fun events => matchesNormal_denotes⟩
      rw [eventMatchesPattern, accepted]
      rfl

/-- A wildcard before the trailing one is accepted. -/
theorem patternContract_wildcards : ¬ PatternContract "*.*" := by
  intro contract
  have normal : lower (strip "*.*") = "*.*" := by decide
  have checked : checkEventPattern "*.*" = .ok () := by decide
  have accepted := @normalizeEventPattern_accepts "*.*"
  rw [normal] at accepted
  obtain ⟨-, lone | ⟨-, dotted | ⟨name, same, dotted⟩⟩⟩ := acceptable_iff.mp (normal ▸ contract.accepts.mp (accepted.mpr checked))
  · exact absurd lone (by decide)
  · exact dotted.2 (by decide)
  · have star : name = "*" := (String.append_left_inj ".*").mp same.symm
    exact dotted.2 (by simp [star])

end Operly.Workflow
