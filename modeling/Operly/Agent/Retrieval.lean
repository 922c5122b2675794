import Operly.Agent.Objective
import Operly.Kernel.CapabilitySearch

/-! An objective that only retrieves: what its query is read as, and what a search for it finds. -/

namespace Operly.Agent
open Python Security Kernel

/-! ### What `_validate` promises -/

theorem wordsFrom_proper {word text : List Char} (proper : ∀ c ∈ word, isSpace c = false) :
    ∀ part ∈ wordsFrom word text, part ≠ [] ∧ ∀ c ∈ part, isSpace c = false := by
  induction text generalizing word with
  | nil =>
    intro part member
    unfold wordsFrom at member
    split at member
    · cases member
    · next nonempty =>
      rw [List.mem_singleton.mp member]
      exact ⟨by simpa using nonempty, fun c known => proper c (List.mem_reverse.mp known)⟩
  | cons c rest ih =>
    intro part member
    unfold wordsFrom at member
    split at member
    · split at member
      · exact ih (fun _ absent => by cases absent) part member
      · next nonempty =>
        cases List.mem_cons.mp member with
        | inl same =>
          rw [same]
          exact ⟨by simpa using nonempty, fun d known => proper d (List.mem_reverse.mp known)⟩
        | inr later => exact ih (fun _ absent => by cases absent) part later
    · next visible =>
      refine ih (fun d known => ?_) part member
      cases List.mem_cons.mp known with
      | inl same => rw [same]; simpa using visible
      | inr old => exact proper d old

theorem collapse_head {text : String} (nonempty : collapse text ≠ "") :
    ∃ first rest, (collapse text).toList = first :: rest ∧ isSpace first = false := by
  have spelled : (collapse text).toList = " ".toList.intercalate (wordsFrom [] text.toList) := by
    rw [collapse, String.toList_intercalate, words, List.map_map]
    congr 1
    exact (List.map_congr_left fun part _ => String.toList_ofList).trans (List.map_id _)
  have proper : ∀ part ∈ wordsFrom [] text.toList, part ≠ [] ∧ ∀ c ∈ part, isSpace c = false :=
    wordsFrom_proper fun _ absent => by cases absent
  cases parts : wordsFrom [] text.toList with
  | nil =>
    rw [parts] at spelled
    exact absurd (String.toList_inj.mp (spelled.trans rfl)) nonempty
  | cons part others =>
    obtain ⟨present, visible⟩ := proper part (parts ▸ List.mem_cons_self)
    obtain ⟨first, rest, shape⟩ := List.exists_cons_of_ne_nil present
    have own : isSpace first = false := visible first (shape ▸ List.mem_cons_self)
    rw [spelled, parts, shape]
    cases others with
    | nil => exact ⟨first, rest, by simp [List.intercalate], own⟩
    | cons second more => exact ⟨first, _, by simp [List.intercalate, List.intersperse]; rfl, own⟩

variable {spelling : Spelling} {label : String}

theorem readOperations_nodup {operations found : List ObjectiveOperation} {values : List Json}
    (distinct : operations.Nodup) (read : readOperations spelling operations values = .ok found) : found.Nodup := by
  induction values generalizing operations with
  | nil =>
    cases read
    exact distinct
  | cons value rest ih =>
    unfold readOperations at read
    split at read
    · cases read
    · next operation _ =>
      refine ih ?_ read
      split
      · exact distinct
      · next fresh => exact List.nodup_append.mpr ⟨distinct, by simp, by grind⟩

structure Accepted (objective : ObjectiveIR) : Prop where
  visible : ∃ first rest, objective.objective.toList = first :: rest ∧ isSpace first = false
  distinct : objective.operations.Nodup

theorem validateRest_ok {limits : ObjectiveInterpreterLimits} {payload : Fields} {text : String}
    {kind : ObjectiveKind} {complexity : ObjectiveComplexity} {objective : ObjectiveIR}
    (accepted : validateRest spelling limits payload text kind complexity = .ok objective) :
    objective.objective = text ∧ objective.operations.Nodup := by
  unfold validateRest at accepted
  split at accepted
  · obtain ⟨operations, read, accepted⟩ := bind_eq_ok.mp accepted
    split at accepted
    · obtain ⟨_, accepted⟩ := check_eq_ok.mp accepted
      obtain ⟨hints, _, accepted⟩ := bind_eq_ok.mp accepted
      obtain ⟨external, _, accepted⟩ := bind_eq_ok.mp accepted
      obtain ⟨mutation, _, accepted⟩ := bind_eq_ok.mp accepted
      obtain ⟨future, _, accepted⟩ := bind_eq_ok.mp accepted
      obtain ⟨_, _, same⟩ := bind_eq_ok.mp accepted
      rw [← pure_eq_ok.mp same]
      exact ⟨rfl, readOperations_nodup List.nodup_nil read⟩
    · cases accepted
  · cases accepted

theorem validate_ok {limits : ObjectiveInterpreterLimits} {payload : Fields} {objective : ObjectiveIR}
    (accepted : validate spelling limits payload = .ok objective) : Accepted objective := by
  obtain ⟨_, _, accepted⟩ := bind_eq_ok.mp accepted
  obtain ⟨present, accepted⟩ := check_eq_ok.mp accepted
  dsimp only at accepted
  split at accepted
  · obtain ⟨same, distinct⟩ := validateRest_ok accepted
    exact ⟨same ▸ collapse_head fun empty => present (.inl empty), distinct⟩
  · cases accepted

/-! ### What the query is read as -/

theorem externalOperations_cases {objective : ObjectiveIR} (distinct : objective.operations.Nodup)
    (retrieves : .retrieve ∈ objective.operations) (inert : .act ∉ objective.operations) :
    objective.externalOperations = [.retrieve] ∨ objective.externalOperations = [.retrieve, .wait] ∨
      objective.externalOperations = [.wait, .retrieve] := by
  have nodup : objective.externalOperations.Nodup := distinct.filter _
  have present : .retrieve ∈ objective.externalOperations := List.mem_filter.mpr ⟨retrieves, rfl⟩
  have only : ∀ operation ∈ objective.externalOperations, operation = .retrieve ∨ operation = .wait := by
    intro operation member
    obtain ⟨known, external⟩ := List.mem_filter.mp member
    cases operation with
    | retrieve => exact .inl rfl
    | wait => exact .inr rfl
    | act => exact absurd known inert
    | respond | analyze | transform => cases external
  generalize objective.externalOperations = operations at *
  match operations with
  | [] => cases present
  | [first] => exact .inl (congrArg (fun operation => [operation]) (List.mem_singleton.mp present).symm)
  | first :: second :: rest =>
    have differs : first ≠ second := fun same => (List.nodup_cons.mp nodup).1 (same ▸ List.mem_cons_self)
    have short : rest = [] := by
      cases rest with
      | nil => rfl
      | cons third more =>
        have one := only first (by simp)
        have two := only second (by simp)
        have three := only third (by simp)
        simp only [List.nodup_cons, List.mem_cons, not_or] at nodup
        grind
    subst short
    right
    cases only first (by simp) with
    | inl retrieve =>
      have wait := (only second (by simp)).resolve_left fun same => differs (retrieve.trans same.symm)
      exact .inl (by rw [retrieve, wait])
    | inr wait =>
      have retrieve := (only second (by simp)).resolve_right fun same => differs (wait.trans same.symm)
      exact .inr (by rw [retrieve, wait])

def ObjectiveIR.writtenText (objective : ObjectiveIR) : String := " | ".intercalate objective.writtenParts

theorem writtenText_starts (objective : ObjectiveIR) :
    ∃ more, objective.writtenText.toList = objective.objective.toList ++ more := by
  rw [ObjectiveIR.writtenText, String.toList_intercalate, ObjectiveIR.writtenParts]
  split
  · exact ⟨[], by simp⟩
  · exact ⟨_, by rw [List.map_cons, List.map_singleton, List.intercalate_cons_cons, List.append_assoc]⟩

def labelSection (operations : List ObjectiveOperation) : String :=
  "operations " ++ " ".intercalate (operations.map (·.value))

theorem capabilityQuery_eq {objective : ObjectiveIR} (external : objective.requiresExternalState = true)
    (labelled : objective.externalOperations ≠ []) :
    objective.capabilityQuery = objective.writtenText ++ " | " ++ labelSection objective.externalOperations := by
  have some_labels : objective.externalOperations.map (·.value) ≠ [] := by simpa using labelled
  rw [ObjectiveIR.capabilityQuery, external, if_neg (by decide)]
  dsimp only
  rw [if_neg some_labels]
  rw [← String.toList_inj]
  simp only [String.toList_append, String.toList_intercalate, ObjectiveIR.writtenText, List.map_append, labelSection,
    ObjectiveIR.writtenParts]
  split <;> simp [List.intercalate, List.intersperse]

def LabelSection (label : String) : Prop :=
  label = "operations retrieve" ∨ label = "operations retrieve wait" ∨ label = "operations wait retrieve"

theorem labelSection_cases {objective : ObjectiveIR} (distinct : objective.operations.Nodup)
    (retrieves : .retrieve ∈ objective.operations) (inert : .act ∉ objective.operations) :
    LabelSection (labelSection objective.externalOperations) := by
  rcases externalOperations_cases distinct retrieves inert with same | same | same
  · exact .inl (by rw [same]; decide)
  · exact .inr (.inl (by rw [same]; decide))
  · exact .inr (.inr (by rw [same]; decide))

def labelTail (label : String) : List Char := '|' :: ' ' :: label.toList

theorem labelTail_settled (known : LabelSection label) : ∀ c ∈ ' ' :: labelTail label, Settled c := by
  have settled : ∀ label ∈ ["operations retrieve", "operations retrieve wait", "operations wait retrieve"],
      ∀ c ∈ ' ' :: labelTail label, c.toNat ≠ 931 ∧ lowerChar c = [c] := by decide
  rcases known with rfl | rfl | rfl <;> exact settled _ (by simp)

theorem labelTail_last (known : LabelSection label) (text : List Char) :
    ∀ c, (text ++ ' ' :: labelTail label).getLast? = some c → isSpace c = false := by
  have visible : ∀ label ∈ ["operations retrieve", "operations retrieve wait", "operations wait retrieve"],
      ((' ' :: labelTail label).getLast?).any (fun c => !isSpace c) = true := by decide
  intro c last
  have own : ((' ' :: labelTail label).getLast?).any (fun c => !isSpace c) = true := by
    rcases known with rfl | rfl | rfl <;> exact visible _ (by simp)
  rw [List.getLast?_append_of_ne_nil _ (List.cons_ne_nil _ _)] at last
  rw [last] at own
  simpa using own

theorem sections_labelTail (known : LabelSection label) :
    sections '|' (String.ofList (' ' :: label.toList)) = [label] := by
  rcases known with rfl | rfl | rfl <;> decide

section Query
variable {objective : ObjectiveIR} (accepted : Accepted objective) (external : objective.requiresExternalState = true)
  (retrieves : .retrieve ∈ objective.operations) (inert : .act ∉ objective.operations)
include accepted external retrieves inert

theorem lower_strip_query : lower (strip objective.capabilityQuery) =
    String.ofList ((lower objective.writtenText).toList ++ ' ' :: labelTail (labelSection objective.externalOperations)) := by
  have known := labelSection_cases accepted.distinct retrieves inert
  have labelled : objective.externalOperations ≠ [] :=
    List.ne_nil_of_mem (List.mem_filter.mpr ⟨retrieves, rfl⟩)
  have spelled : objective.capabilityQuery = objective.writtenText ++
      String.ofList (' ' :: labelTail (labelSection objective.externalOperations)) := by
    rw [capabilityQuery_eq external labelled, ← String.toList_inj]
    simp [labelTail]
  have trimmed : strip objective.capabilityQuery = objective.capabilityQuery := by
    obtain ⟨first, rest, shape, visible⟩ := accepted.visible
    obtain ⟨more, starts⟩ := writtenText_starts objective
    have front : ∀ c, (objective.capabilityQuery.toList).head? = some c → isSpace c = false := by
      intro c head
      rw [spelled, String.toList_append, starts, shape] at head
      cases head
      exact visible
    have back : ∀ c, (objective.capabilityQuery.toList).getLast? = some c → isSpace c = false := by
      rw [spelled, String.toList_append, String.toList_ofList]
      exact labelTail_last known _
    rw [strip, stripChars_of_bare front back, String.ofList_toList]
  rw [trimmed, spelled, lower_append_of_settled (labelTail_settled known), ← String.toList_inj]
  simp

theorem sections_query : sections '|' (lower (strip objective.capabilityQuery)) =
    sections '|' (lower objective.writtenText) ++ [labelSection objective.externalOperations] := by
  have known := labelSection_cases accepted.distinct retrieves inert
  rw [lower_strip_query accepted external retrieves inert, labelTail, sections_join (by decide), String.ofList_toList,
    sections_labelTail known]

end Query

/-- A text that names a mutation by a verb; to run something may be a noun beside a verb of reading. -/
def namesMutation (text : String) : Bool :=
  (actionFacets text).any strongMutationActions.contains ||
    ((actionFacets text).contains .execute && !(actionFacets text).any readActions.contains)

def forgesMutation (part : String) : Bool := (sectionTerms "operations " part).any mutationLabels.contains

/-- What the model has written names no mutation: neither the first section by a verb, nor a later one by a label.
Without any section the labels themselves are read as the objective, where waiting is no retrieval. -/
def ObjectiveIR.ReadsOnly (objective : ObjectiveIR) : Prop :=
  match sections '|' (lower objective.writtenText) with
  | [] => .wait ∉ objective.operations
  | first :: rest => namesMutation first = false ∧ ∀ part ∈ rest, forgesMutation part = false

theorem labelSection_read (known : LabelSection label) :
    namesMutation label = false ∧ forgesMutation label = false ∧
      (sectionTerms "operations " label).any retrievalLabels.contains = true ∧
      ((actionFacets label).contains .wait = false ↔ label = "operations retrieve") := by
  rcases known with rfl | rfl | rfl <;> decide

theorem wait_mem_iff {objective : ObjectiveIR} (distinct : objective.operations.Nodup)
    (retrieves : .retrieve ∈ objective.operations) (inert : .act ∉ objective.operations) :
    labelSection objective.externalOperations = "operations retrieve" ↔ .wait ∉ objective.operations := by
  have same : .wait ∈ objective.operations ↔ .wait ∈ objective.externalOperations := by
    rw [ObjectiveIR.externalOperations, List.mem_filter]
    exact ⟨fun known => ⟨known, rfl⟩, And.left⟩
  rw [same]
  rcases externalOperations_cases distinct retrieves inert with shape | shape | shape <;> rw [shape] <;> decide

variable {query : String}

theorem pureRetrieval_single {part : String} (parts : sections '|' (lower (strip query)) = [part]) :
    (CapabilitySearchQuery.parse query).pureRetrieval = true ↔
      namesMutation part = false ∧ (actionFacets part).contains .wait = false := by
  simp only [CapabilitySearchQuery.pureRetrieval, CapabilitySearchQuery.parse, parts, List.headD_cons, List.tail_cons,
    List.flatMap_nil, List.any_nil, List.isEmpty_nil, namesMutation]
  generalize (actionFacets part).any strongMutationActions.contains = strong
  generalize ((actionFacets part).contains .execute && !(actionFacets part).any readActions.contains) = ambiguous
  generalize (actionFacets part).contains .wait = waits
  revert strong ambiguous waits
  decide

theorem pureRetrieval_labelled {first : String} {rest : List String}
    (parts : sections '|' (lower (strip query)) = first :: rest)
    (labelled : (rest.flatMap (sectionTerms "operations ")).any retrievalLabels.contains = true) :
    (CapabilitySearchQuery.parse query).pureRetrieval = true ↔
      namesMutation first = false ∧ ∀ part ∈ rest, forgesMutation part = false := by
  have forged : (rest.flatMap (sectionTerms "operations ")).any mutationLabels.contains = rest.any forgesMutation := by
    rw [List.any_flatMap]
    rfl
  have none_forged : (∀ part ∈ rest, forgesMutation part = false) ↔ rest.any forgesMutation = false := by
    simp only [List.any_eq_false, Bool.not_eq_true]
  rw [none_forged]
  simp only [CapabilitySearchQuery.pureRetrieval, CapabilitySearchQuery.parse, parts, List.headD_cons, List.tail_cons,
    labelled, forged, Bool.true_or, Bool.true_and, namesMutation]
  generalize (actionFacets first).any strongMutationActions.contains = strong
  generalize ((actionFacets first).contains .execute && !(actionFacets first).any readActions.contains) = ambiguous
  generalize rest.any forgesMutation = forges
  revert strong ambiguous forges
  decide

theorem pureRetrieval_iff {objective : ObjectiveIR} (accepted : Accepted objective)
    (external : objective.requiresExternalState = true) (retrieves : .retrieve ∈ objective.operations)
    (inert : .act ∉ objective.operations) :
    (CapabilitySearchQuery.parse (lower (strip objective.capabilityQuery))).pureRetrieval = true ↔ objective.ReadsOnly := by
  have known := labelSection_cases accepted.distinct retrieves inert
  obtain ⟨unnamed, unforged, labelled, waits⟩ := labelSection_read known
  have parts : sections '|' (lower (strip (lower (strip objective.capabilityQuery)))) =
      sections '|' (lower objective.writtenText) ++ [labelSection objective.externalOperations] := by
    rw [strip_lower_strip, lower_lower]
    exact sections_query accepted external retrieves inert
  unfold ObjectiveIR.ReadsOnly
  cases written : sections '|' (lower objective.writtenText) with
  | nil =>
    rw [written, List.nil_append] at parts
    rw [pureRetrieval_single parts, waits, wait_mem_iff accepted.distinct retrieves inert]
    exact and_iff_right unnamed
  | cons first rest =>
    rw [written, List.cons_append] at parts
    have labels : ((rest ++ [labelSection objective.externalOperations]).flatMap (sectionTerms "operations ")).any
        retrievalLabels.contains = true := by
      rw [List.flatMap_append, List.any_append, List.flatMap_singleton, labelled, Bool.or_true]
    rw [pureRetrieval_labelled parts labels]
    simp only [List.forall_mem_append, List.forall_mem_singleton, unforged, and_true]

/-! ### What the search finds -/

def FindsReadOnly (index : CapabilitySearchIndex) (registry : CapabilityRegistry) (context : ExecutionContext)
    (effectiveOnly : Bool) (query : String) (limit : Nat) : Prop :=
  ∀ spec ∈ index.search registry context effectiveOnly query limit, spec.risk = .readOnly

def NamedReadOnly (registry : CapabilityRegistry) (context : ExecutionContext) (effectiveOnly : Bool) (query : String) : Prop :=
  ∀ spec ∈ registry.lookup (lower (strip query)), CapabilityRegistry.allowed context effectiveOnly spec = true →
    spec.risk = .readOnly

theorem findsReadOnly_iff {index : CapabilitySearchIndex} {registry : CapabilityRegistry} {context : ExecutionContext}
    {effectiveOnly : Bool} {limit : Nat} (nonblank : lower (strip query) ≠ "")
    (read : (CapabilitySearchQuery.parse (lower (strip query))).pureRetrieval = true) :
    FindsReadOnly index.parsing registry context effectiveOnly query limit ↔
      NamedReadOnly registry context effectiveOnly query := by
  constructor
  · intro finds spec known permitted
    exact finds spec (CapabilitySearchIndex.mem_search_of_named nonblank (Option.mem_def.mp known) permitted)
  · intro named spec found
    rw [← CapabilitySearchIndex.parsing_pureRetrieval index] at read
    exact CapabilitySearchIndex.readOnly_of_pureRetrieval nonblank read named found

/-- Without external state the query is empty and a search lists what there is. -/
def ListedReadOnly (registry : CapabilityRegistry) (context : ExecutionContext) (effectiveOnly : Bool) (limit : Nat) : Prop :=
  ∀ spec ∈ (if effectiveOnly then registry.effective context else registry.visible context).take (max 1 (min limit 50)),
    spec.risk = .readOnly

theorem query_ne_empty {objective : ObjectiveIR} (accepted : Accepted objective)
    (external : objective.requiresExternalState = true) (retrieves : .retrieve ∈ objective.operations)
    (inert : .act ∉ objective.operations) : lower (strip objective.capabilityQuery) ≠ "" := by
  intro empty
  rw [lower_strip_query accepted external retrieves inert, ← String.toList_inj, String.toList_ofList] at empty
  simp at empty

/-- The query of an objective that retrieves and does not act is read as pure retrieval and finds no mutating
capability exactly if what the model has written names no mutation and is no mutating capability's id; without
external state, if none is listed. -/
theorem retrieval_finds_no_mutation_iff {spelling : Spelling} {limits : ObjectiveInterpreterLimits} {payload : Fields}
    {objective : ObjectiveIR} (validated : validate spelling limits payload = .ok objective)
    (retrieves : .retrieve ∈ objective.operations) (inert : .act ∉ objective.operations)
    (index : CapabilitySearchIndex) (registry : CapabilityRegistry) (context : ExecutionContext) (effectiveOnly : Bool)
    (limit : Nat) :
    ((CapabilitySearchQuery.parse (lower (strip objective.capabilityQuery))).pureRetrieval = true ∧
      FindsReadOnly index.parsing registry context effectiveOnly objective.capabilityQuery limit) ↔
    if objective.requiresExternalState = true then
      objective.ReadsOnly ∧ NamedReadOnly registry context effectiveOnly objective.capabilityQuery
    else ListedReadOnly registry context effectiveOnly limit := by
  have accepted := validate_ok validated
  cases external : objective.requiresExternalState with
  | false =>
    have blank : objective.capabilityQuery = "" := if_pos external
    have nothing : lower (strip "") = "" := by decide
    have read : (CapabilitySearchQuery.parse "").pureRetrieval = true := by decide
    rw [if_neg (by decide), blank, nothing, read]
    unfold FindsReadOnly CapabilitySearchIndex.search
    dsimp only
    rw [nothing, if_pos rfl]
    exact and_iff_right rfl
  | true =>
    have nonblank := query_ne_empty accepted external retrieves inert
    rw [if_pos rfl]
    have read := pureRetrieval_iff accepted external retrieves inert
    rw [← read]
    exact and_congr_right fun parsed => findsReadOnly_iff nonblank parsed

def retrievalPayload (objective : String) : Fields :=
  [("objective", .str objective), ("kind", .str "retrieve"), ("operations", .arr [.str "retrieve"]),
    ("resource_hints", .arr [.str "mail message"]), ("requires_external_state", .bool true),
    ("requires_mutation", .bool false), ("requires_future_wait", .bool false), ("complexity", .str "simple")]

def retrieving (objective : String) : ObjectiveIR :=
  ⟨objective, .retrieve, [.retrieve], ["mail message"], true, false, false, .simple⟩

def unspelled : Spelling := ⟨fun _ => "", fun _ => ""⟩

def mailbox : CapabilityRegistry where
  specs := [⟨"google.gmail.search", "1", "google", ["personal"], [], [], [], .readOnly, false, "scope", []⟩,
    ⟨"google.gmail.create_draft", "1", "google", ["personal"], [], [], [], .low, false, "scope", []⟩]
  normalized := by decide
  distinct := by decide

def everything : CapabilitySearchIndex where
  candidateIds registry _ _ := registry.specs.map (·.id)
  pureRetrieval _ := false
  score _ _ _ := 1
  hasResourceTerms _ := false
  resourceOverlap _ _ := 0

def privately : ExecutionContext where
  workspaceId := none
  userId := some "ada"
  role := ""
  permissions := []
  channel := "web"
  surface := .personalPrivate
  conversationId := none
  metadata := []
  scopeKind := .personal
  principalId := none
  workspaceMode := "full"

theorem retrieval_finds_no_mutation_searched :
    ((CapabilitySearchQuery.parse (lower (strip (retrieving "Search mail").capabilityQuery))).pureRetrieval = true ∧
      FindsReadOnly everything.parsing mailbox privately true (retrieving "Search mail").capabilityQuery 6) ↔
    if (retrieving "Search mail").requiresExternalState = true then
      (retrieving "Search mail").ReadsOnly ∧ NamedReadOnly mailbox privately true (retrieving "Search mail").capabilityQuery
    else ListedReadOnly mailbox privately true 6 := by
  have validated : validate unspelled {} (retrievalPayload "Search mail") = .ok (retrieving "Search mail") := by
    decide
  exact retrieval_finds_no_mutation_iff validated (by decide) (by decide) everything mailbox privately true 6

/-- A noun of the text is taken for a verb of a mutation. -/
theorem draft_search_finds_mutation :
    validate unspelled {} (retrievalPayload "Search for draft emails") = .ok (retrieving "Search for draft emails") ∧
    .retrieve ∈ (retrieving "Search for draft emails").operations ∧
    .act ∉ (retrieving "Search for draft emails").operations ∧
    (retrieving "Search for draft emails").requiresMutation = false ∧
    (CapabilitySearchQuery.parse (lower (strip (retrieving "Search for draft emails").capabilityQuery))).pureRetrieval =
      false ∧
    ∃ spec ∈ everything.parsing.search mailbox privately true (retrieving "Search for draft emails").capabilityQuery 6,
      spec.risk ≠ .readOnly := by
  decide +kernel

end Operly.Agent
