import Operly.Workflow.Conditions

/-! What a condition means, and where its evaluation computes something else. Nesting is unbounded here, while
Python stops at its recursion limit. -/

namespace Operly.Workflow
open Python

def child : Json → String → Option Json
  | .obj fields, part => Fields.get fields part
  | .arr items, part => if isDigit part then (parseInt part).bind fun index => items[index.toNat]? else none
  | _, _ => none

/-- What a reference stands for in a context; `none` when it is missing. -/
def lookup (context : Json) (reference : String) : Option Json :=
  (split '.' reference).foldlM child context

def equals (actual : Option Json) (expected : Json) : Bool := actual.any fun value => Json.same value expected

/-- The comparison of a reference, false when it is missing; `none` when the values cannot be compared. -/
def compared (comparison : Json → Json → Option Bool) (actual : Option Json) (expected : Json) : Option Bool :=
  match actual with
  | some value => comparison value expected
  | none => some false

def operatorMeaning (op : String) (actual : Option Json) (expected : Json) : Option Bool :=
  match op with
  | "truthy" => some (actual.any Json.truthy)
  | "exists" => some actual.isSome
  | "eq" => some (equals actual expected)
  | "ne" => some (!equals actual expected)
  | "gt" => compared (Json.order .gt) actual expected
  | "gte" => compared (Json.order .gte) actual expected
  | "lt" => compared (Json.order .lt) actual expected
  | "lte" => compared (Json.order .lte) actual expected
  | "in" => compared Json.member actual expected
  | "not_in" => (compared Json.member actual expected).map not
  | _ => none

/-- A comparison, by the reference and the operator that validation has checked. -/
def leafMeaning (spelling : Spelling) (context : Json) (fields : Fields) : Option Bool :=
  (renderValue spelling context ((Fields.get fields "value").getD .null)).toOption.bind
    (operatorMeaning (lower (strip (operand spelling fields "op" "truthy")))
      (lookup context (strip (operand spelling fields "ref" ""))))

/-- All of the outcomes are true; one that is undefined counts when none before it is false. -/
def allOf : List (Option Bool) → Option Bool
  | [] => some true
  | item :: rest => item.bind fun outcome => if outcome then allOf rest else some false

def anyOf : List (Option Bool) → Option Bool
  | [] => some false
  | item :: rest => item.bind fun outcome => if outcome then some true else anyOf rest

mutual
/-- The truth of a condition in a context; `none` stands for a spec error. -/
def conditionMeaning (spelling : Spelling) (context : Json) : Json → Option Bool
  | .obj fields =>
      if Fields.has fields "all" then allOf (groupMeanings spelling context "all" fields)
      else if Fields.has fields "any" then anyOf (groupMeanings spelling context "any" fields)
      else leafMeaning spelling context fields
  | _ => none
def groupMeanings (spelling : Spelling) (context : Json) (key : String) : Fields → List (Option Bool)
  | [] => []
  | (name, value) :: rest =>
      if name = key then childMeanings spelling context value else groupMeanings spelling context key rest
def childMeanings (spelling : Spelling) (context : Json) : Json → List (Option Bool)
  | .arr items => itemMeanings spelling context items
  | _ => []
def itemMeanings (spelling : Spelling) (context : Json) : List Json → List (Option Bool)
  | [] => []
  | item :: rest => conditionMeaning spelling context item :: itemMeanings spelling context rest
end

/-- The evaluation returns the meaning, or raises a spec error where there is none. -/
def Agrees (result : Except WorkflowError Bool) (meaning : Option Bool) : Prop :=
  match meaning with
  | some outcome => result = .ok outcome
  | none => ∃ message, result = .error (.spec message)

/-! ### Where evaluation strays

It compares with the texts as they are written: an operator that is known only when trimmed is false, and so is
`not_in` of a missing reference. The `ValueError` of an index is let through. -/

/-- The comparison with a value is false where another is meant, or compares something else than what is meant. -/
def comparisonStrays (context : Json) (reference op : String) (expected : Json) : Bool :=
  let meant := operatorMeaning (lower (strip op)) (lookup context (strip reference)) expected
  if !conditionOps.contains (lower op) || (lower op = "not_in" && (lookup context reference).isNone) then meant ≠ some false
  else operatorMeaning (lower op) (lookup context reference) expected ≠ meant

/-- A value that cannot be rendered is a spec error before anything is compared. -/
def leafStrays (spelling : Spelling) (context : Json) (fields : Fields) : Bool :=
  leafTrips spelling context fields ||
    match renderValue spelling context ((Fields.get fields "value").getD .null) with
    | .ok expected => comparisonStrays context (operand spelling fields "ref" "") (operand spelling fields "op" "truthy") expected
    | .error _ => false

mutual
/-- Evaluation meets a comparison that strays before its outcome is decided. -/
def conditionStrays (spelling : Spelling) (context : Json) : Json → Bool
  | .obj fields =>
      if Fields.has fields "all" then groupStrays spelling context true fields
      else if Fields.has fields "any" then groupStrays spelling context false fields
      else leafStrays spelling context fields
  | _ => false
def groupStrays (spelling : Spelling) (context : Json) (conjunction : Bool) : Fields → Bool
  | [] => false
  | (name, value) :: rest =>
      if name = evaluateKey conjunction then childrenStray spelling context conjunction value
      else groupStrays spelling context conjunction rest
def childrenStray (spelling : Spelling) (context : Json) (conjunction : Bool) : Json → Bool
  | .arr items => itemsStray spelling context conjunction items
  | _ => false
def itemsStray (spelling : Spelling) (context : Json) (conjunction : Bool) : List Json → Bool
  | [] => false
  | item :: rest => conditionStrays spelling context item ||
      (evaluateCondition spelling context item = .ok conjunction && itemsStray spelling context conjunction rest)
end

/-! ### Comparisons -/

theorem path_lookup (reference : String) {context : Json} {segments : List String}
    (readable : unreadable context segments = false) :
    (∃ value, segments.foldlM child context = some value ∧
      segments.foldlM (pathStep reference) context = .ok value) ∨
    (segments.foldlM child context = none ∧
      ∃ message, segments.foldlM (pathStep reference) context = .error (.spec message)) := by
  induction segments generalizing context with
  | nil => exact .inl ⟨context, rfl, rfl⟩
  | cons part rest ih =>
    rw [List.foldlM_cons, List.foldlM_cons]
    cases context with
    | obj fields =>
      simp only [unreadable] at readable
      simp only [child, pathStep]
      cases held : Fields.get fields part with
      | none => exact .inr ⟨rfl, _, rfl⟩
      | some value =>
        rw [held] at readable
        exact ih readable
    | arr items =>
      simp only [unreadable] at readable
      simp only [child, pathStep]
      by_cases digits : isDigit part = true
      · rw [digits, Bool.true_and] at readable
        rw [if_pos digits, if_pos digits]
        cases number : parseInt part with
        | none =>
          rw [number] at readable
          cases readable
        | some index =>
          rw [number] at readable
          dsimp only at readable
          cases held : items[index.toNat]? with
          | none => exact .inr ⟨by simp [held], by simp [held]; exact ⟨_, rfl⟩⟩
          | some value =>
            rw [held] at readable
            simp only [Option.bind_some, held]
            exact ih readable
      · rw [if_neg digits, if_neg digits]
        exact .inr ⟨rfl, _, rfl⟩
    | null | bool _ | int _ | float _ | str _ => exact .inr ⟨rfl, _, rfl⟩

theorem actualValue_lookup {context : Json} {reference : String} (readable : unreadableRef context reference = false) :
    actualValue context reference = .ok (lookup context reference) := by
  unfold actualValue pathValue lookup
  rcases path_lookup reference readable with ⟨value, found, read⟩ | ⟨missing, message, read⟩
  · rw [found, read]
  · rw [missing, read]

theorem leafOutcome_agrees {op : String} (known : op ∈ conditionOps) {actual : Option Json}
    (held : op = "not_in" → actual.isSome = true) (expected : Json) :
    Agrees (leafOutcome op actual expected) (operatorMeaning op actual expected) := by
  have order : ∀ kind : Json.Order, ∀ value : Json, Agrees (match Json.order kind value expected with
      | some outcome => .ok outcome
      | none => .error (.spec "Condition values cannot be compared")) (Json.order kind value expected) := by
    intro kind value
    cases Json.order kind value expected with
    | some outcome => rfl
    | none => exact ⟨_, rfl⟩
  simp only [conditionOps, List.mem_cons, List.not_mem_nil, or_false] at known
  cases actual with
  | none =>
    have listed : op ≠ "not_in" := fun same => by cases held same
    rcases known with rfl | rfl | rfl | rfl | rfl | rfl | rfl | rfl | rfl | rfl
    all_goals first | exact absurd rfl listed | rfl
  | some value =>
    rcases known with rfl | rfl | rfl | rfl | rfl | rfl | rfl | rfl | rfl | rfl
    · rfl
    · rfl
    · rfl
    · rfl
    · exact order .gt value
    · exact order .gte value
    · exact order .lt value
    · exact order .lte value
    · simp only [leafOutcome, compareValues, operatorMeaning, compared]
      cases Json.member value expected with
      | some outcome => rfl
      | none => exact ⟨_, rfl⟩
    · simp only [leafOutcome, compareValues, operatorMeaning, compared]
      cases Json.member value expected with
      | some outcome => rfl
      | none => exact ⟨_, rfl⟩

theorem leafOutcome_unknown {op : String} (unknown : op ∉ conditionOps) (actual : Option Json) (expected : Json) :
    leafOutcome op actual expected = .ok false := by
  have apart : ∀ known ∈ conditionOps, op ≠ known := fun known member same => unknown (same ▸ member)
  unfold leafOutcome
  rw [if_neg (apart "exists" (by decide)), if_neg (apart "truthy" (by decide))]
  cases actual with
  | none =>
    dsimp only
    rw [decide_eq_false (apart "ne" (by decide))]
  | some value =>
    have none : compareValues op value expected = some false := by
      unfold compareValues
      split <;> first | exact absurd rfl (apart _ (by decide)) | rfl
    simp only [none]

theorem Agrees.unique {result : Except WorkflowError Bool} {meaning other : Option Bool} (agrees : Agrees result meaning) :
    Agrees result other ↔ meaning = other := by
  refine ⟨fun agrees' => ?_, fun same => same ▸ agrees⟩
  cases meaning with
  | some outcome =>
    cases other with
    | some outcome' =>
      have same : Except.ok outcome = .ok outcome' := Eq.trans (Eq.symm agrees) agrees'
      cases same
      rfl
    | none =>
      obtain ⟨message, raised⟩ := agrees'
      cases raised.symm.trans agrees
  | none =>
    obtain ⟨message, raised⟩ := agrees
    cases other with
    | some outcome' => cases raised.symm.trans agrees'
    | none => rfl

theorem leafOutcome_agrees_iff (context : Json) (reference op : String) (expected : Json) :
    Agrees (leafOutcome (lower op) (lookup context reference) expected)
        (operatorMeaning (lower (strip op)) (lookup context (strip reference)) expected) ↔
      comparisonStrays context reference op expected = false := by
  unfold comparisonStrays
  dsimp only
  have false' : ∀ {outcome : Except WorkflowError Bool} {meant : Option Bool}, outcome = .ok false →
      (Agrees outcome meant ↔ decide (meant ≠ some false) = false) := by
    intro outcome meant same
    have agrees : Agrees outcome (some false) := same
    rw [agrees.unique, decide_eq_false_iff_not, not_not, eq_comm]
  by_cases known : lower op ∈ conditionOps
  · cases missing : decide (lower op = "not_in") && (lookup context reference).isNone with
    | true =>
      rw [Bool.or_true, if_pos rfl]
      rw [Bool.and_eq_true, decide_eq_true_eq, Option.isNone_iff_eq_none] at missing
      refine false' ?_
      rw [missing.1, missing.2]
      rfl
    | false =>
      have held : lower op = "not_in" → (lookup context reference).isSome = true := by
        intro named
        simpa [named] using missing
      rw [(leafOutcome_agrees known held expected).unique, Bool.or_false, if_neg (by simpa using known),
        decide_eq_false_iff_not, not_not]
  · rw [if_pos (by simp [known])]
    exact false' (leafOutcome_unknown known _ _)

theorem evaluateLeaf_agrees_iff (spelling : Spelling) (context : Json) (fields : Fields) :
    Agrees (evaluateLeaf spelling context fields) (leafMeaning spelling context fields) ↔
      leafStrays spelling context fields = false := by
  have trips := escapes_evaluateLeaf spelling context fields
  rw [leafStrays, Bool.or_eq_false_iff]
  cases calm : leafTrips spelling context fields with
  | true =>
    rw [calm] at trips
    obtain ⟨error, raised, other⟩ := trips.mpr rfl
    refine iff_of_false (fun agrees => ?_) (fun both => by cases both.1)
    rw [raised] at agrees
    cases meaning : leafMeaning spelling context fields with
    | some outcome =>
      rw [meaning] at agrees
      cases agrees
    | none =>
      rw [meaning] at agrees
      obtain ⟨message, same⟩ := agrees
      cases same
      cases other
  | false =>
    rw [leafTrips, Bool.or_eq_false_iff] at calm
    have rendered : ¬Escapes (renderValue spelling context ((Fields.get fields "value").getD .null)) := by
      rw [escapes_renderValue, calm.2]
      simp
    rw [evaluateLeaf, actualValue_lookup calm.1, leafMeaning]
    show Agrees (renderValue spelling context ((Fields.get fields "value").getD .null) >>= _) _ ↔ _
    cases outcome : renderValue spelling context ((Fields.get fields "value").getD .null) with
    | error error =>
      rw [outcome, escapes_error, Bool.not_eq_false] at rendered
      cases error with
      | spec message => exact iff_of_true ⟨message, rfl⟩ ⟨rfl, rfl⟩
      | _ => cases rendered
    | ok expected =>
      have bound (op : String) (actual : Option Json) : (Except.ok expected >>= fun expected => leafOutcome op actual expected) =
          leafOutcome op actual expected := rfl
      rw [bound, show (Except.ok expected : Except WorkflowError Json).toOption = some expected from rfl, Option.bind_some,
        eq_self, true_and]
      exact leafOutcome_agrees_iff context (operand spelling fields "ref" "") (operand spelling fields "op" "truthy") expected

/-! ### Conditions -/

def junction (conjunction : Bool) : List (Option Bool) → Option Bool := if conjunction then allOf else anyOf

theorem junction_nil (conjunction : Bool) : junction conjunction [] = some conjunction := by
  cases conjunction <;> rfl

theorem junction_cons (conjunction : Bool) (item : Option Bool) (rest : List (Option Bool)) :
    junction conjunction (item :: rest) =
      item.bind fun outcome => if outcome = conjunction then junction conjunction rest else some outcome := by
  cases item with
  | none => cases conjunction <;> rfl
  | some outcome => cases conjunction <;> cases outcome <;> rfl

mutual
/-- Evaluation agrees with the meaning of a validated condition when it meets no comparison that strays. -/
theorem evaluateCondition_agrees (spelling : Spelling) (context : Json) : ∀ condition : Json,
    validateCondition spelling condition = .ok () → conditionStrays spelling context condition = false →
      Agrees (evaluateCondition spelling context condition) (conditionMeaning spelling context condition)
  | .obj fields, valid, straight => by
      have group := evaluateGroup_agrees spelling context fields
      rw [conditionStrays] at straight
      rw [evaluateCondition, conditionMeaning]
      cases all : Fields.has fields "all" with
      | true =>
        rw [if_pos all] at straight
        rw [if_pos rfl, if_pos rfl]
        exact group true (validateCondition_group valid (.inl ⟨rfl, all⟩)) all straight
      | false =>
        rw [if_neg (by simp [all])] at straight
        rw [if_neg Bool.false_ne_true, if_neg Bool.false_ne_true]
        cases any : Fields.has fields "any" with
        | true =>
          rw [if_pos any] at straight
          rw [if_pos rfl, if_pos rfl]
          exact group false (validateCondition_group valid (.inr ⟨rfl, all, any⟩)) any straight
        | false =>
          rw [if_neg (by simp [any])] at straight
          rw [if_neg Bool.false_ne_true, if_neg Bool.false_ne_true]
          exact (evaluateLeaf_agrees_iff spelling context fields).mpr straight
  | .null, valid, _ | .bool _, valid, _ | .int _, valid, _ | .float _, valid, _ | .str _, valid, _
  | .arr _, valid, _ => by
      simp [validateCondition] at valid
theorem evaluateGroup_agrees (spelling : Spelling) (context : Json) : ∀ (fields : Fields) (conjunction : Bool),
    validateGroup spelling (evaluateKey conjunction) fields = .ok () →
      Fields.has fields (evaluateKey conjunction) = true →
        groupStrays spelling context conjunction fields = false →
          Agrees (evaluateGroup spelling context conjunction fields)
            (junction conjunction (groupMeanings spelling context (evaluateKey conjunction) fields))
  | [], _, _, present, _ => by cases present
  | (name, value) :: rest, conjunction, valid, present, straight => by
      have later := evaluateGroup_agrees spelling context rest conjunction
      rw [validateGroup] at valid
      rw [groupStrays] at straight
      rw [evaluateGroup, groupMeanings]
      by_cases found : name = evaluateKey conjunction
      · rw [if_pos found] at valid straight ⊢
        rw [if_pos found]
        exact evaluateChildren_agrees spelling context value conjunction valid straight
      · rw [if_neg found] at valid straight ⊢
        rw [if_neg found]
        exact later valid (by simpa [Fields.has, found] using present) straight
theorem evaluateChildren_agrees (spelling : Spelling) (context : Json) : ∀ (children : Json) (conjunction : Bool),
    validateChildren spelling (evaluateKey conjunction) children = .ok () →
      childrenStray spelling context conjunction children = false →
        Agrees (evaluateChildren spelling context conjunction children)
          (junction conjunction (childMeanings spelling context children))
  | .arr items, conjunction, valid, straight => by
      rw [validateChildren, check_eq_ok] at valid
      exact evaluateItems_agrees spelling context items conjunction valid.2 straight
  | .obj _, _, valid, _ | .null, _, valid, _ | .bool _, _, valid, _ | .int _, _, valid, _ | .float _, _, valid, _
  | .str _, _, valid, _ => by
      simp [validateChildren] at valid
theorem evaluateItems_agrees (spelling : Spelling) (context : Json) : ∀ (items : List Json) (conjunction : Bool),
    validateItems spelling items = .ok () → itemsStray spelling context conjunction items = false →
      Agrees (evaluateItems spelling context conjunction items)
        (junction conjunction (itemMeanings spelling context items))
  | [], conjunction, _, _ => by
      rw [evaluateItems, itemMeanings, junction_nil]
      rfl
  | item :: rest, conjunction, valid, straight => by
      rw [validateItems] at valid
      obtain ⟨_, first, others⟩ := bind_eq_ok.mp valid
      rw [itemsStray, Bool.or_eq_false_iff] at straight
      have head := evaluateCondition_agrees spelling context item first straight.1
      have tail := evaluateItems_agrees spelling context rest conjunction others
      rw [evaluateItems, itemMeanings, junction_cons]
      cases known : conditionMeaning spelling context item with
      | none =>
        rw [known] at head
        obtain ⟨message, raised⟩ := head
        rw [raised]
        exact ⟨message, rfl⟩
      | some outcome =>
        rw [known] at head
        have returned : evaluateCondition spelling context item = .ok outcome := head
        rw [returned]
        show Agrees (if outcome = conjunction then _ else _) (if outcome = conjunction then _ else _)
        by_cases neutral : outcome = conjunction
        · rw [if_pos neutral, if_pos neutral]
          refine tail ?_
          simpa [returned, neutral] using straight.2
        · rw [if_neg neutral, if_neg neutral]
          rfl
end

def plainText : Spelling := ⟨fun _ => "0.0", fun _ => ""⟩

def mailContext : Json := .obj [("trigger", .obj [("kind", .str "mail"), ("items", .arr [.int 1])])]

def comparison (reference op : String) (value : Json) : Json :=
  .obj [("ref", .str reference), ("op", .str op), ("value", value)]

/-- The value cannot be rendered, so the absent reference is not compared with it. -/
example : conditionStrays plainText mailContext (comparison "trigger.topic" "not_in" (.str "\x7b\x7btrigger.nothing\x7d\x7d")) =
    false := by decide

end Operly.Workflow
