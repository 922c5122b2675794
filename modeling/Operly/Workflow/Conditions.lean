import Operly.Python.Exceptions
import Operly.Workflow.Spec

/-! When the evaluation of a condition raises anything but a spec error. -/

namespace Operly.Workflow
open Python

/-- The call raises an exception that a handler of spec errors lets through. -/
def Escapes {α : Type} (result : Except WorkflowError α) : Prop :=
  ∃ error, result = .error error ∧ error.isSpec = false

@[simp] theorem escapes_ok {α : Type} (value : α) : ¬Escapes (.ok value : Except WorkflowError α) := by
  rintro ⟨_, same, _⟩
  cases same

@[simp] theorem escapes_error {α : Type} (error : WorkflowError) :
    Escapes (.error error : Except WorkflowError α) ↔ error.isSpec = false := by
  constructor
  · rintro ⟨_, same, other⟩
    cases same
    exact other
  · exact fun other => ⟨error, rfl, other⟩

theorem escapes_map {α β : Type} (result : Except WorkflowError α) (change : α → β) :
    Escapes (result.map change) ↔ Escapes result := by
  cases result <;> simp [Except.map]

def returns {α : Type} (result : Except WorkflowError α) : Bool :=
  match result with
  | .ok _ => true
  | .error _ => false

theorem escapes_bind {α β : Type} (first : Except WorkflowError α) (next : α → Except WorkflowError β) :
    Escapes (first >>= next) ↔ Escapes first ∨ ∃ value, first = .ok value ∧ Escapes (next value) := by
  cases first with
  | ok value =>
    constructor
    · exact fun escapes => .inr ⟨value, rfl, escapes⟩
    · rintro (escapes | ⟨_, same, escapes⟩)
      · exact absurd escapes (escapes_ok value)
      · cases same
        exact escapes
  | error error =>
    constructor
    · rintro ⟨_, same, other⟩
      cases same
      exact .inl ((escapes_error error).mpr other)
    · rintro (escapes | ⟨_, same, _⟩)
      · exact (escapes_error error).mpr ((escapes_error error).mp escapes)
      · cases same

/-- The reference indexes a list with a segment that `isdigit` accepts and `int` rejects: a
digit that is no decimal digit, or more digits than `int` reads. -/
def unreadable : Json → List String → Bool
  | _, [] => false
  | .obj fields, part :: rest =>
      match Fields.get fields part with
      | some value => unreadable value rest
      | none => false
  | .arr items, part :: rest =>
      isDigit part &&
        (match parseInt part with
          | none => true
          | some index =>
              match items[index.toNat]? with
              | some value => unreadable value rest
              | none => false)
  | _, _ :: _ => false

theorem escapes_path (reference : String) (context : Json) (segments : List String) :
    Escapes (segments.foldlM (pathStep reference) context) ↔ unreadable context segments = true := by
  induction segments generalizing context with
  | nil =>
    have same : (List.foldlM (pathStep reference) context [] : Except WorkflowError Json) = .ok context := rfl
    simp [same, unreadable]
  | cons part rest ih =>
    rw [List.foldlM_cons]
    cases context with
    | obj fields =>
      simp only [pathStep, unreadable]
      cases Fields.get fields part with
      | none => simp [escapes_bind, WorkflowError.isSpec]
      | some value => simpa [escapes_bind] using ih value
    | arr items =>
      simp only [pathStep, unreadable]
      by_cases digits : isDigit part = true
      · rw [if_pos digits, digits]
        cases parseInt part with
        | none => simp [escapes_bind, WorkflowError.isSpec]
        | some index =>
          simp only []
          cases items[index.toNat]? with
          | none => simp [escapes_bind, WorkflowError.isSpec]
          | some value => simpa [escapes_bind] using ih value
      · rw [if_neg digits]
        simp [escapes_bind, WorkflowError.isSpec, digits]
    | null => simp [pathStep, unreadable, escapes_bind, WorkflowError.isSpec]
    | bool _ => simp [pathStep, unreadable, escapes_bind, WorkflowError.isSpec]
    | int _ => simp [pathStep, unreadable, escapes_bind, WorkflowError.isSpec]
    | float _ => simp [pathStep, unreadable, escapes_bind, WorkflowError.isSpec]
    | str _ => simp [pathStep, unreadable, escapes_bind, WorkflowError.isSpec]

def unreadableRef (context : Json) (reference : String) : Bool :=
  unreadable context (split '.' reference)

theorem escapes_pathValue (context : Json) (reference : String) :
    Escapes (pathValue context reference) ↔ unreadableRef context reference = true :=
  escapes_path reference context _

/-! ### Templates -/

def piecesTrip (context : Json) : List Piece → Bool
  | [] => false
  | .literal _ :: rest => piecesTrip context rest
  | .template reference :: rest =>
      unreadableRef context reference || (returns (pathValue context reference) && piecesTrip context rest)

def textTrips (context : Json) (text : String) : Bool :=
  match fullTemplate text with
  | some reference => unreadableRef context reference
  | none => piecesTrip context (pieces 0 text.toList)

mutual
/-- Rendering the value meets an unreadable template before one that is merely unavailable. -/
def renderTrips (spelling : Spelling) (context : Json) : Json → Bool
  | .obj fields => fieldsTrip spelling context fields
  | .arr items => itemsTrip spelling context items
  | .str text => textTrips context text
  | .null | .bool _ | .int _ | .float _ => false
def itemsTrip (spelling : Spelling) (context : Json) : List Json → Bool
  | [] => false
  | item :: rest => renderTrips spelling context item ||
      (returns (renderValue spelling context item) && itemsTrip spelling context rest)
def fieldsTrip (spelling : Spelling) (context : Json) : Fields → Bool
  | [] => false
  | (_, item) :: rest => renderTrips spelling context item ||
      (returns (renderValue spelling context item) && fieldsTrip spelling context rest)
end

theorem returns_iff {α : Type} (result : Except WorkflowError α) :
    returns result = true ↔ ∃ value, result = .ok value := by
  cases result with
  | ok value => simp [returns]
  | error error => simp [returns]

theorem escapes_sequence {α β γ : Type} {first : Except WorkflowError α} {others : Except WorkflowError β}
    {join : α → β → γ} {trips later : Bool} (head : Escapes first ↔ trips = true)
    (tail : Escapes others ↔ later = true) :
    Escapes (do let x ← first; let xs ← others; return join x xs) ↔
      (trips || (returns first && later)) = true := by
  rw [escapes_bind, head, Bool.or_eq_true, Bool.and_eq_true, returns_iff]
  apply or_congr Iff.rfl
  constructor
  · rintro ⟨value, same, escapes⟩
    rw [escapes_bind] at escapes
    rcases escapes with escapes | ⟨_, _, escapes⟩
    · exact ⟨⟨value, same⟩, tail.mp escapes⟩
    · exact absurd escapes (escapes_ok _)
  · rintro ⟨⟨value, same⟩, escapes⟩
    exact ⟨value, same, (escapes_bind _ _).mpr (.inl (tail.mpr escapes))⟩

theorem escapes_renderPieces (spelling : Spelling) (context : Json) (list : List Piece) :
    Escapes (renderPieces spelling context list) ↔ piecesTrip context list = true := by
  induction list with
  | nil => simp [renderPieces, piecesTrip]
  | cons piece rest ih =>
    rw [renderPieces]
    cases piece with
    | literal c =>
      have never : Escapes (renderPiece spelling context (.literal c)) ↔ false = true := by
        simp [renderPiece]
      rw [escapes_sequence never ih, piecesTrip]
      simp [renderPiece, returns]
    | template reference =>
      have head : Escapes (renderPiece spelling context (.template reference)) ↔
          unreadableRef context reference = true := by
        rw [renderPiece, escapes_map, escapes_pathValue]
      rw [escapes_sequence head ih, piecesTrip, renderPiece]
      cases pathValue context reference <;> rfl

theorem escapes_renderText (spelling : Spelling) (context : Json) (text : String) :
    Escapes (renderText spelling context text) ↔ textTrips context text = true := by
  unfold renderText textTrips
  cases fullTemplate text with
  | some reference => exact escapes_pathValue context reference
  | none =>
    simp only []
    rw [escapes_map, escapes_renderPieces]

mutual
theorem escapes_renderValue (spelling : Spelling) (context : Json) : ∀ value : Json,
    Escapes (renderValue spelling context value) ↔ renderTrips spelling context value = true
  | .obj fields => by
      rw [renderValue, renderTrips, escapes_map, escapes_renderFields spelling context fields]
  | .arr items => by
      rw [renderValue, renderTrips, escapes_map, escapes_renderItems spelling context items]
  | .str text => by rw [renderValue, renderTrips, escapes_renderText]
  | .null | .bool _ | .int _ | .float _ => by simp [renderValue, renderTrips]
theorem escapes_renderItems (spelling : Spelling) (context : Json) : ∀ items : List Json,
    Escapes (renderItems spelling context items) ↔ itemsTrip spelling context items = true
  | [] => by simp [renderItems, itemsTrip]
  | item :: rest => by
      rw [renderItems, itemsTrip]
      exact escapes_sequence (escapes_renderValue spelling context item)
        (escapes_renderItems spelling context rest)
theorem escapes_renderFields (spelling : Spelling) (context : Json) : ∀ fields : Fields,
    Escapes (renderFields spelling context fields) ↔ fieldsTrip spelling context fields = true
  | [] => by simp [renderFields, fieldsTrip]
  | (key, item) :: rest => by
      rw [renderFields, fieldsTrip]
      exact escapes_sequence (escapes_renderValue spelling context item)
        (escapes_renderFields spelling context rest)
end

/-! ### Conditions -/

def leafTrips (spelling : Spelling) (context : Json) (fields : Fields) : Bool :=
  unreadableRef context (operand spelling fields "ref" "") ||
    renderTrips spelling context ((Fields.get fields "value").getD .null)

theorem escapes_leafOutcome (op : String) (actual : Option Json) (expected : Json) :
    ¬Escapes (leafOutcome op actual expected) := by
  unfold leafOutcome
  split
  · exact escapes_ok _
  · split
    · exact escapes_ok _
    · split
      · exact escapes_ok _
      · split
        · exact escapes_ok _
        · simp [WorkflowError.isSpec]

theorem escapes_evaluateLeaf (spelling : Spelling) (context : Json) (fields : Fields) :
    Escapes (evaluateLeaf spelling context fields) ↔ leafTrips spelling context fields = true := by
  have reading : Escapes (actualValue context (operand spelling fields "ref" "")) ↔
      unreadableRef context (operand spelling fields "ref" "") = true := by
    rw [← escapes_pathValue, actualValue]
    cases pathValue context (operand spelling fields "ref" "") with
    | ok value => simp
    | error error => cases error <;> simp [WorkflowError.isSpec]
  have settled : unreadableRef context (operand spelling fields "ref" "") = false →
      ∃ actual, actualValue context (operand spelling fields "ref" "") = .ok actual := by
    intro readable
    have ordinary : ¬Escapes (pathValue context (operand spelling fields "ref" "")) := by
      rw [escapes_pathValue, readable]
      simp
    unfold actualValue
    cases outcome : pathValue context (operand spelling fields "ref" "") with
    | ok value => exact ⟨some value, rfl⟩
    | error error =>
      cases error with
      | spec message => exact ⟨none, rfl⟩
      | _ =>
        rw [outcome] at ordinary
        simp [WorkflowError.isSpec] at ordinary
  unfold evaluateLeaf leafTrips
  rw [escapes_bind, reading, Bool.or_eq_true]
  by_cases tripped : unreadableRef context (operand spelling fields "ref" "") = true
  · simp [tripped]
  · obtain ⟨actual, known⟩ := settled (by simpa using tripped)
    rw [← escapes_renderValue]
    apply or_congr Iff.rfl
    constructor
    · rintro ⟨_, _, escapes⟩
      rw [escapes_bind] at escapes
      rcases escapes with escapes | ⟨expected, _, escapes⟩
      · exact escapes
      · exact absurd escapes (escapes_leafOutcome _ _ _)
    · intro escapes
      exact ⟨actual, known, (escapes_bind _ _).mpr (.inl escapes)⟩

mutual
/-- Evaluation meets an unreadable reference before its outcome is decided. -/
def conditionTrips (spelling : Spelling) (context : Json) : Json → Bool
  | .obj fields =>
      if Fields.has fields "all" then groupTrips spelling context true fields
      else if Fields.has fields "any" then groupTrips spelling context false fields
      else leafTrips spelling context fields
  | .null | .bool _ | .int _ | .float _ | .str _ | .arr _ => false
def groupTrips (spelling : Spelling) (context : Json) (conjunction : Bool) : Fields → Bool
  | [] => false
  | (name, value) :: rest =>
      if name = evaluateKey conjunction then childrenTrip spelling context conjunction value
      else groupTrips spelling context conjunction rest
def childrenTrip (spelling : Spelling) (context : Json) (conjunction : Bool) : Json → Bool
  | .arr items => conditionsTrip spelling context conjunction items
  | .null | .bool _ | .int _ | .float _ | .str _ | .obj _ => false
def conditionsTrip (spelling : Spelling) (context : Json) (conjunction : Bool) : List Json → Bool
  | [] => false
  | item :: rest => conditionTrips spelling context item ||
      (evaluateCondition spelling context item = .ok conjunction &&
        conditionsTrip spelling context conjunction rest)
end

theorem validateCondition_group {spelling : Spelling} {fields : Fields}
    (valid : validateCondition spelling (.obj fields) = .ok ()) {key : String}
    (group : key = "all" ∧ Fields.has fields "all" = true ∨
      key = "any" ∧ Fields.has fields "all" = false ∧ Fields.has fields "any" = true) :
    validateGroup spelling key fields = .ok () := by
  rw [validateCondition] at valid
  split at valid
  · cases valid
  · next notBoth =>
    rcases group with ⟨rfl, hasAll⟩ | ⟨rfl, noAll, hasAny⟩
    · rwa [if_pos hasAll] at valid
    · rwa [if_neg (by simp [noAll]), if_pos hasAny] at valid

mutual
theorem escapes_evaluateCondition (spelling : Spelling) (context : Json) :
    ∀ condition : Json, validateCondition spelling condition = .ok () →
      (Escapes (evaluateCondition spelling context condition) ↔
        conditionTrips spelling context condition = true)
  | .obj fields, valid => by
      have group conjunction := escapes_evaluateGroup spelling context conjunction fields
      rw [evaluateCondition, conditionTrips]
      cases all : Fields.has fields "all" with
      | true =>
        rw [if_pos rfl, if_pos rfl]
        exact group true (validateCondition_group valid (.inl ⟨rfl, all⟩))
      | false =>
        rw [if_neg Bool.false_ne_true, if_neg Bool.false_ne_true]
        cases any : Fields.has fields "any" with
        | true =>
          rw [if_pos rfl, if_pos rfl]
          exact group false (validateCondition_group valid (.inr ⟨rfl, all, any⟩))
        | false =>
          rw [if_neg Bool.false_ne_true, if_neg Bool.false_ne_true]
          exact escapes_evaluateLeaf spelling context fields
  | .null, _ | .bool _, _ | .int _, _ | .float _, _ | .str _, _ | .arr _, _ => by
      simp [evaluateCondition, conditionTrips]
theorem escapes_evaluateGroup (spelling : Spelling) (context : Json) (conjunction : Bool) :
    ∀ fields : Fields, validateGroup spelling (evaluateKey conjunction) fields = .ok () →
      (Escapes (evaluateGroup spelling context conjunction fields) ↔
        groupTrips spelling context conjunction fields = true)
  | [], _ => by simp [evaluateGroup, groupTrips]
  | (name, value) :: rest, valid => by
      have tail := escapes_evaluateGroup spelling context conjunction rest
      rw [validateGroup] at valid
      rw [evaluateGroup, groupTrips]
      by_cases found : name = evaluateKey conjunction
      · rw [if_pos found] at valid ⊢
        rw [if_pos found]
        exact escapes_evaluateChildren spelling context conjunction value valid
      · rw [if_neg found] at valid ⊢
        rw [if_neg found]
        exact tail valid
theorem escapes_evaluateChildren (spelling : Spelling) (context : Json) (conjunction : Bool) :
    ∀ children : Json, validateChildren spelling (evaluateKey conjunction) children = .ok () →
      (Escapes (evaluateChildren spelling context conjunction children) ↔
        childrenTrip spelling context conjunction children = true)
  | .arr items, valid => by
      rw [validateChildren, check_eq_ok] at valid
      rw [evaluateChildren, childrenTrip]
      exact escapes_evaluateItems spelling context conjunction items valid.2
  | .obj _, valid | .null, valid | .bool _, valid | .int _, valid | .float _, valid | .str _, valid => by
      simp [validateChildren] at valid
theorem escapes_evaluateItems (spelling : Spelling) (context : Json) (conjunction : Bool) :
    ∀ items : List Json, validateItems spelling items = .ok () →
      (Escapes (evaluateItems spelling context conjunction items) ↔
        conditionsTrip spelling context conjunction items = true)
  | [], _ => by simp [evaluateItems, conditionsTrip]
  | item :: rest, valid => by
      rw [validateItems] at valid
      obtain ⟨_, first, others⟩ := bind_eq_ok.mp valid
      have head := escapes_evaluateCondition spelling context item first
      have tail := escapes_evaluateItems spelling context conjunction rest others
      rw [evaluateItems, conditionsTrip, escapes_bind, head, Bool.or_eq_true, Bool.and_eq_true,
        decide_eq_true_eq, ← tail]
      apply or_congr Iff.rfl
      constructor
      · rintro ⟨outcome, same, escapes⟩
        by_cases neutral : outcome = conjunction
        · rw [if_pos neutral] at escapes
          exact ⟨neutral ▸ same, escapes⟩
        · rw [if_neg neutral] at escapes
          exact absurd escapes (escapes_ok _)
      · rintro ⟨same, escapes⟩
        exact ⟨conjunction, same, by rwa [if_pos rfl]⟩
end

/-! ### Stored conditions

A validated condition is stored with the keys of its objects in order. -/

theorem validateGroup_eq (spelling : Spelling) (key : String) (fields : Fields) :
    validateGroup spelling key fields =
      match Fields.get fields key with
      | none => .ok ()
      | some value => validateChildren spelling key value := by
  induction fields with
  | nil => rfl
  | cons entry rest ih =>
    obtain ⟨name, value⟩ := entry
    rw [validateGroup, Fields.get_cons, ih]
    by_cases found : name = key
    · rw [if_pos found, if_pos found]
    · rw [if_neg found, if_neg found]

theorem validateLeaf_iff {spelling : Spelling} {fields : Fields} (noAll : Fields.has fields "all" = false)
    (noAny : Fields.has fields "any" = false) : validateCondition spelling (.obj fields) = .ok () ↔
      strip (operand spelling fields "ref" "") ≠ "" ∧
        conditionOps.contains (lower (strip (operand spelling fields "op" "truthy"))) = true := by
  rw [validateCondition, noAll, noAny, Bool.and_false, if_neg (by decide), if_neg (by decide), if_neg (by decide),
    check_eq_ok]
  dsimp only
  apply and_congr Iff.rfl
  split
  · next known => exact iff_of_true rfl known
  · next unknown => exact iff_of_false (fun valid => by cases valid) unknown

end Operly.Workflow
