import Mathlib.Data.String.Basic
import Operly.Kernel.Policy

/-! What a context may see of the capability registry, by listing and by search. -/

namespace Operly.Kernel
open Python Security

/-! ### The first available items of a list -/

section Available

variable {α ε : Type}

def takeAvailable (check : α → Except ε Bool) : Nat → List α → Except ε (List α)
  | _, [] => .ok []
  | 0, _ => .ok []
  | limit + 1, item :: rest => do
      if ← check item then return item :: (← takeAvailable check limit rest)
      else takeAvailable check (limit + 1) rest

variable {check : α → Except ε Bool}

def passed (check : α → Except ε Bool) (item : α) : Bool :=
  match check item with
  | .ok answer => answer
  | .error _ => false

def raised (check : α → Except ε Bool) (item : α) : Bool :=
  match check item with
  | .ok _ => false
  | .error _ => true

theorem takeAvailable_cons (limit : Nat) (item : α) (rest : List α) :
    takeAvailable check (limit + 1) (item :: rest) =
      match check item with
      | .ok true => (takeAvailable check limit rest).map (item :: ·)
      | .ok false => takeAvailable check (limit + 1) rest
      | .error error => .error error := by
  simp only [takeAvailable, bind, Except.bind, pure, Except.pure]
  cases check item with
  | error error => rfl
  | ok answer =>
    cases answer with
    | false => rfl
    | true => cases takeAvailable check limit rest <;> rfl

@[simp] theorem takeAvailable_zero (items : List α) : takeAvailable check 0 items = .ok [] := by
  cases items <;> rfl

variable {items : List α}

theorem takeAvailable_eq {limit : Nat} {found : List α} (taken : takeAvailable check limit items = .ok found) :
    found = (items.filter (passed check)).take limit := by
  induction items generalizing limit found with
  | nil =>
    cases taken
    simp
  | cons item rest ih =>
    cases limit with
    | zero =>
      cases taken
      simp
    | succ limit =>
      rw [takeAvailable_cons] at taken
      cases checked : check item with
      | error error => simp [checked] at taken
      | ok answer =>
        cases answer with
        | false =>
          simp only [checked] at taken
          rw [ih taken, List.filter_cons_of_neg (by simp [passed, checked])]
        | true =>
          simp only [checked] at taken
          cases later : takeAvailable check limit rest with
          | error error => simp [later, Except.map] at taken
          | ok others =>
            simp only [later, Except.map, Except.ok.injEq] at taken
            rw [← taken, ih later, List.filter_cons_of_pos (by simp [passed, checked]),
              List.take_succ_cons]

variable {κ : Type} [LinearOrder κ] (key : α → κ)

def passedBefore (check : α → Except ε Bool) (items : List α) (bound : κ) : Nat :=
  items.countP fun item => decide (key item < bound) && passed check item

theorem passedBefore_cons (item : α) (rest : List α) (bound : κ) :
    passedBefore key check (item :: rest) bound = passedBefore key check rest bound +
      if key item < bound ∧ passed check item = true then 1 else 0 := by
  simp [passedBefore, List.countP_cons]

theorem passedBefore_head {item : α} {rest : List α} (sorted : (item :: rest).Pairwise fun a b => key a < key b) :
    passedBefore key check (item :: rest) (key item) = 0 := by
  rw [passedBefore, List.countP_eq_zero]
  intro other member
  rcases List.mem_cons.mp member with rfl | later
  · simp
  · have after := (List.pairwise_cons.mp sorted).1 other later
    simp [not_lt_of_gt after]

theorem mem_take_passed (sorted : items.Pairwise fun a b => key a < key b) {limit : Nat} {item : α} :
    item ∈ (items.filter (passed check)).take limit ↔
      item ∈ items ∧ passed check item = true ∧ passedBefore key check items (key item) < limit := by
  induction items generalizing limit with
  | nil => simp
  | cons head rest ih =>
    obtain ⟨below, rest_sorted⟩ := List.pairwise_cons.mp sorted
    by_cases passes : passed check head = true
    · rw [List.filter_cons_of_pos passes]
      cases limit with
      | zero => simp
      | succ limit =>
        rw [List.take_succ_cons, List.mem_cons, ih rest_sorted]
        constructor
        · rintro (rfl | ⟨member, good, few⟩)
          · refine ⟨List.mem_cons_self, passes, ?_⟩
            rw [passedBefore_head key sorted]
            omega
          · refine ⟨List.mem_cons_of_mem _ member, good, ?_⟩
            rw [passedBefore_cons, if_pos ⟨below item member, passes⟩]
            omega
        · rintro ⟨member, good, few⟩
          rcases List.mem_cons.mp member with rfl | member
          · exact .inl rfl
          · rw [passedBefore_cons, if_pos ⟨below item member, passes⟩] at few
            exact .inr ⟨member, good, by omega⟩
    · rw [List.filter_cons_of_neg (by simpa using passes), ih rest_sorted]
      have unchanged : passedBefore key check (head :: rest) (key item) =
          passedBefore key check rest (key item) := by simp [passedBefore_cons, passes]
      rw [unchanged, List.mem_cons]
      constructor
      · rintro ⟨member, good⟩
        exact ⟨.inr member, good⟩
      · rintro ⟨rfl | member, good⟩
        · exact absurd good.1 passes
        · exact ⟨member, good⟩

theorem takeAvailable_ok_iff (sorted : items.Pairwise fun a b => key a < key b) {limit : Nat} :
    (∃ found, takeAvailable check limit items = .ok found) ↔
      ∀ item ∈ items, raised check item = true → limit ≤ passedBefore key check items (key item) := by
  induction items generalizing limit with
  | nil => simp [takeAvailable]
  | cons head rest ih =>
    obtain ⟨below, rest_sorted⟩ := List.pairwise_cons.mp sorted
    cases limit with
    | zero => simp
    | succ limit =>
      have first : passedBefore key check (head :: rest) (key head) = 0 := passedBefore_head key sorted
      rw [takeAvailable_cons]
      cases checked : check head with
      | error error =>
        constructor
        · rintro ⟨found, impossible⟩
          cases impossible
        · intro enough
          have late := enough head List.mem_cons_self (by simp [raised, checked])
          omega
      | ok answer =>
        have quiet : raised check head = false := by simp [raised, checked]
        cases answer with
        | false =>
          rw [ih rest_sorted]
          have passes : passed check head = false := by simp [passed, checked]
          simp [passedBefore_cons, passes, quiet]
        | true =>
          have passes : passed check head = true := by simp [passed, checked]
          have mapped : (∃ found, (takeAvailable check limit rest).map (head :: ·) = .ok found) ↔
              ∃ found, takeAvailable check limit rest = .ok found := by
            cases takeAvailable check limit rest <;> simp [Except.map]
          dsimp only
          rw [mapped, ih rest_sorted]
          simp only [List.forall_mem_cons, quiet, Bool.false_eq_true, false_implies, true_and]
          refine forall₂_congr fun item member => ?_
          rw [passedBefore_cons, if_pos ⟨below item member, passes⟩, Nat.add_le_add_iff_right]

end Available

namespace CapabilityRegistry

variable (registry : CapabilityRegistry) (context : ExecutionContext)

def lookup (key : String) : Option CapabilitySpec := registry.specs.find? fun spec => spec.id = key

def register (spec : CapabilitySpec) : Except KernelError CapabilityRegistry :=
  if normalized : lower (strip spec.id) = spec.id ∧ spec.id ≠ "" then
    if fresh : spec.id ∉ registry.specs.map (·.id) then
      .ok {
        specs := registry.specs ++ [spec]
        normalized := by
          intro other member
          rcases List.mem_append.mp member with held | added
          · exact registry.normalized other held
          · exact List.mem_singleton.mp added ▸ normalized
        distinct := by
          rw [List.map_append, List.nodup_append]
          refine ⟨registry.distinct, by simp, ?_⟩
          rintro held present added new rfl
          simp only [List.map_cons, List.map_nil, List.mem_singleton] at new
          exact fresh (new ▸ present) }
    else .error (.registry ("Duplicate capability: " ++ spec.id))
  else .error (.registry "Capability IDs must be normalized lowercase names")

def all : List CapabilitySpec := registry.specs.insertionSort fun a b => a.id ≤ b.id

def surfaceAllowed (spec : CapabilitySpec) : Bool :=
  spec.scopes.contains context.scopeKind.value && capabilitySurfaceAllowed spec.id context.surface

def effectiveAllowed (spec : CapabilitySpec) : Bool :=
  surfaceAllowed context spec && spec.permissions.all context.can

def visible : List CapabilitySpec := registry.all.filter (surfaceAllowed context)

def effective : List CapabilitySpec :=
  (registry.visible context).filter fun spec => spec.permissions.all context.can

def allowed (effectiveOnly : Bool) (spec : CapabilitySpec) : Bool :=
  if effectiveOnly then effectiveAllowed context spec else surfaceAllowed context spec

variable {registry} {context} {spec : CapabilitySpec}

theorem mem_all : spec ∈ registry.all ↔ spec ∈ registry.specs :=
  List.mem_insertionSort _

theorem mem_effective :
    spec ∈ registry.effective context ↔ spec ∈ registry.specs ∧ effectiveAllowed context spec = true := by
  simp only [effective, visible, List.mem_filter, mem_all, effectiveAllowed, Bool.and_eq_true,
    and_assoc]

theorem all_sorted : registry.all.Pairwise fun a b => a.id < b.id := by
  have weak : registry.all.Pairwise fun a b => a.id ≤ b.id := by
    have total : ∀ a b : CapabilitySpec, a.id ≤ b.id ∨ b.id ≤ a.id := fun a b => le_total _ _
    have transitive : ∀ a b c : CapabilitySpec, a.id ≤ b.id → b.id ≤ c.id → a.id ≤ c.id :=
      fun a b c => le_trans
    have : Std.Total fun a b : CapabilitySpec => a.id ≤ b.id := ⟨total⟩
    have : IsTrans CapabilitySpec fun a b => a.id ≤ b.id := ⟨transitive⟩
    exact List.pairwise_insertionSort _ registry.specs
  have distinct : registry.all.Pairwise fun a b => a.id ≠ b.id := by
    have permuted := List.perm_insertionSort (fun a b : CapabilitySpec => a.id ≤ b.id) registry.specs
    have ids : (registry.all.map CapabilitySpec.id).Nodup :=
      (permuted.map CapabilitySpec.id).nodup_iff.mpr registry.distinct
    exact List.pairwise_map.mp ids
  exact (weak.and distinct).imp fun both => lt_of_le_of_ne both.1 both.2

theorem effective_sorted : (registry.effective context).Pairwise fun a b => a.id < b.id :=
  (all_sorted.filter _).filter _

theorem lookup_eq_some {key : String} : registry.lookup key = some spec ↔ spec ∈ registry.specs ∧ spec.id = key := by
  constructor
  · intro found
    exact ⟨List.mem_of_find?_eq_some found, by simpa using List.find?_some found⟩
  · rintro ⟨member, rfl⟩
    cases found : registry.lookup spec.id with
    | none =>
      have absent := List.find?_eq_none.mp found spec member
      simp at absent
    | some other =>
      have named : other.id = spec.id := by simpa using List.find?_some found
      rw [eq_of_id (List.mem_of_find?_eq_some found) member named]

end CapabilityRegistry

/-! ### Search -/

/-- What the sparse index, the capability families and the semantic provider say of a query.
Nothing that they name is trusted. -/
structure CapabilitySearchIndex where
  candidateIds : CapabilityRegistry → String → Nat → List String
  /-- `parsed.wants_retrieval and not parsed.wants_mutation` -/
  pureRetrieval : String → Bool
  /-- Only the sign and the order of a score are used. -/
  score : CapabilityRegistry → String → CapabilitySpec → Int
  hasResourceTerms : String → Bool
  resourceOverlap : String → CapabilitySpec → Nat

namespace CapabilitySearchIndex

variable (index : CapabilitySearchIndex) (registry : CapabilityRegistry)
  (context : ExecutionContext)

def search (effectiveOnly : Bool) (query : String) (limit : Nat) : List CapabilitySpec :=
  let boundedLimit := max 1 (min limit 50)
  let queryText := lower (strip query)
  if queryText = "" then
    (if effectiveOnly then registry.effective context else registry.visible context).take boundedLimit
  else
    match (registry.lookup queryText).filter (CapabilityRegistry.allowed context effectiveOnly) with
    | some exact => [exact]
    | none =>
      let candidates := (index.candidateIds registry queryText boundedLimit).eraseDups.filterMap
        registry.lookup
      let ranked := candidates.filter fun spec =>
        CapabilityRegistry.allowed context effectiveOnly spec &&
          !(index.pureRetrieval queryText && spec.risk ≠ .readOnly) &&
          0 < index.score registry queryText spec
      (ranked.insertionSort fun a b =>
        let left := index.score registry queryText a
        let right := index.score registry queryText b
        right < left ∨ right = left ∧ a.id ≤ b.id).take boundedLimit

def family (capabilityId : String) : String :=
  let parts := (split '.' capabilityId).filter (· ≠ "")
  if parts.length ≤ 1 then capabilityId else ".".intercalate parts.dropLast

def focusResourceFamily (query : String) (candidates : List CapabilitySpec) : List CapabilitySpec :=
  if !index.hasResourceTerms query || candidates.length ≤ 1 then candidates
  else
    let best := (candidates.map (index.resourceOverlap query)).foldr max 0
    if best = 0 then candidates
    else
      let families := (candidates.filter fun spec => index.resourceOverlap query spec = best).map
        (family ·.id)
      let focused := candidates.filter fun spec =>
        index.resourceOverlap query spec = best || families.contains (family spec.id)
      if focused = [] then candidates else focused

variable {index} {registry} {context} {spec : CapabilitySpec}

theorem mem_search {query : String} {limit : Nat} (found : spec ∈ index.search registry context true query limit) :
    spec ∈ registry.effective context := by
  rw [CapabilityRegistry.mem_effective]
  unfold search at found
  dsimp only at found
  split at found
  · exact CapabilityRegistry.mem_effective.mp (List.mem_of_mem_take found)
  · split at found
    · next exact hit =>
      obtain rfl := List.mem_singleton.mp found
      obtain ⟨known, permitted⟩ := Option.filter_eq_some_iff.mp hit
      exact ⟨(CapabilityRegistry.lookup_eq_some.mp known).1, by
        simpa [CapabilityRegistry.allowed] using permitted⟩
    · have ranked := (List.mem_insertionSort _).mp (List.mem_of_mem_take found)
      obtain ⟨candidate, eligible⟩ := List.mem_filter.mp ranked
      obtain ⟨id, -, known⟩ := List.mem_filterMap.mp candidate
      simp only [Bool.and_eq_true] at eligible
      exact ⟨(CapabilityRegistry.lookup_eq_some.mp known).1, by
        simpa [CapabilityRegistry.allowed] using eligible.1.1⟩

theorem search_id (visible : spec ∈ registry.effective context) (effectiveOnly : Bool) (limit : Nat) :
    index.search registry context effectiveOnly spec.id limit = [spec] := by
  obtain ⟨member, permitted⟩ := CapabilityRegistry.mem_effective.mp visible
  obtain ⟨normalized, nonempty⟩ := registry.normalized spec member
  have known : registry.lookup spec.id = some spec := CapabilityRegistry.lookup_eq_some.mpr ⟨member, rfl⟩
  have granted : CapabilityRegistry.allowed context effectiveOnly spec = true := by
    cases effectiveOnly with
    | true => exact permitted
    | false => exact (Bool.and_eq_true_iff.mp permitted).1
  unfold search
  dsimp only
  rw [normalized, if_neg nonempty, known, Option.filter_some_pos granted]

theorem mem_focusResourceFamily {query : String} {candidates : List CapabilitySpec}
    (focused : spec ∈ index.focusResourceFamily query candidates) : spec ∈ candidates := by
  unfold focusResourceFamily at focused
  split at focused
  · exact focused
  · dsimp only at focused
    split at focused
    · exact focused
    · split at focused
      · exact focused
      · exact List.mem_of_mem_filter focused

@[simp] theorem focusResourceFamily_singleton (query : String) (spec : CapabilitySpec) :
    index.focusResourceFamily query [spec] = [spec] := by
  simp [focusResourceFamily]

end CapabilitySearchIndex

/-- `AvailabilityAwareKernelRuntime.available_capabilities`; `check` is the availability that the
providers report. -/
def availableCapabilities (index : CapabilitySearchIndex) (registry : CapabilityRegistry)
    (check : CapabilitySpec → Except KernelError Bool) (context : ExecutionContext)
    (query : Option String) (limit : Nat) : Except KernelError (List CapabilitySpec) :=
  let boundedLimit := max 1 (min limit 50)
  let candidates :=
    if isSet query then
      index.focusResourceFamily (query.getD "") (index.search registry context true (query.getD "")
        (max boundedLimit (min 50 (boundedLimit * 4))))
    else registry.effective context
  takeAvailable check boundedLimit candidates

section AvailableCapabilities

variable {index : CapabilitySearchIndex} {registry : CapabilityRegistry}
  {check : CapabilitySpec → Except KernelError Bool} {context : ExecutionContext}
  {query : Option String} {limit : Nat}

theorem availableCapabilities_sound {found : List CapabilitySpec}
    (available : availableCapabilities index registry check context query limit = .ok found) {spec : CapabilitySpec}
    (member : spec ∈ found) : spec ∈ registry.effective context ∧ passed check spec = true := by
  unfold availableCapabilities at available
  dsimp only at available
  rw [takeAvailable_eq available] at member
  obtain ⟨candidate, passes⟩ := List.mem_filter.mp (List.mem_of_mem_take member)
  refine ⟨?_, passes⟩
  split at candidate
  · exact CapabilitySearchIndex.mem_search (CapabilitySearchIndex.mem_focusResourceFamily candidate)
  · exact candidate

theorem availableCapabilities_id {spec : CapabilitySpec}
    (visible : spec ∈ registry.effective context) (passes : passed check spec = true) :
    availableCapabilities index registry check context (some spec.id) limit = .ok [spec] := by
  have nonempty : isSet (some spec.id) = true := by
    have named := (registry.normalized spec (CapabilityRegistry.mem_effective.mp visible).1).2
    simp [isSet, named]
  have answered : check spec = .ok true := by
    unfold passed at passes
    split at passes
    · next checked => rw [checked, passes]
    · cases passes
  obtain ⟨bound, positive⟩ : ∃ bound, max 1 (min limit 50) = bound + 1 :=
    ⟨max 1 (min limit 50) - 1, by omega⟩
  unfold availableCapabilities
  dsimp only
  rw [if_pos nonempty, Option.getD_some, CapabilitySearchIndex.search_id visible,
    CapabilitySearchIndex.focusResourceFamily_singleton, positive, takeAvailable_cons, answered]
  rfl

end AvailableCapabilities

end Operly.Kernel
