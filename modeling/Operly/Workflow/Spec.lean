import Operly.Python.Values

/-! Workflow specs, step conditions and templates. -/

namespace Operly.Workflow
open Python

/-- The exceptions of the workflow package, as far as its handlers tell them apart. -/
inductive WorkflowError where
  | spec (message : String)
  | value (message : String)
  | typeError
  | overflow
  | permission (message : String)
  | executionContext (message : String)
  | runtime (message : String)
  | lookup (message : String)
  | integrity
  | missingGreenlet
  | other (message : String)
  deriving DecidableEq

def WorkflowError.ofFailure : Failure → WorkflowError
  | .valueError => .value "invalid literal"
  | .typeError => .typeError
  | .overflowError => .overflow

/-- `WorkflowSpecError` is a kind of `ValueError`. -/
def WorkflowError.isSpec : WorkflowError → Bool
  | .spec _ => true
  | _ => false

def maxSteps : Nat := 100
def maxSpecBytes : Nat := 512000
def maxWaitSeconds : Nat := 31 * 24 * 60 * 60

def isStepIdStart (c : Char) : Bool :=
  ('A' ≤ c && c ≤ 'Z') || ('a' ≤ c && c ≤ 'z') || ('0' ≤ c && c ≤ '9')

/-- `_STEP_ID.fullmatch(text)` -/
def isStepId (text : String) : Bool :=
  match text.toList with
  | [] => false
  | c :: rest => isStepIdStart c && rest.length ≤ 79 &&
      rest.all fun d => isStepIdStart d || d = '_' || d = '.' || d = '-'

inductive OnError where
  | stop
  | continue
  deriving DecidableEq

inductive StepKind where
  | action (capabilityId : String) (arguments : Fields)
  | waitSeconds (seconds : Int)
  | waitUntil (text : String)
  deriving DecidableEq

structure Step where
  id : String
  kind : StepKind
  dependsOn : List String
  onError : OnError
  when : Option Json
  deriving DecidableEq

/-- An operand of a condition, `str(value.get(key) or default)`. -/
def operand (spelling : Spelling) (fields : Fields) (key default : String) : String :=
  (Fields.getOr fields key (.str default)).toStr spelling

def conditionOps : List String :=
  ["truthy", "exists", "eq", "ne", "gt", "gte", "lt", "lte", "in", "not_in"]

mutual
def validateCondition (spelling : Spelling) : Json → Except WorkflowError Unit
  | .obj fields =>
      if Fields.has fields "all" && Fields.has fields "any" then
        .error (.spec "Condition cannot contain both all and any")
      else if Fields.has fields "all" then validateGroup spelling "all" fields
      else if Fields.has fields "any" then validateGroup spelling "any" fields
      else if strip (operand spelling fields "ref" "") = "" then
        .error (.spec "Condition ref is required")
      else
        let op := lower (strip (operand spelling fields "op" "truthy"))
        if conditionOps.contains op then .ok ()
        else .error (.spec s!"Unsupported condition operator: {op}")
  | _ => .error (.spec "Step condition must be an object")
def validateGroup (spelling : Spelling) (key : String) : Fields → Except WorkflowError Unit
  | [] => .ok ()
  | (name, value) :: rest =>
      if name = key then validateChildren spelling key value
      else validateGroup spelling key rest
def validateChildren (spelling : Spelling) (key : String) : Json → Except WorkflowError Unit
  | .arr items =>
      if items.isEmpty then .error (.spec s!"Condition {key} must contain conditions")
      else validateItems spelling items
  | _ => .error (.spec s!"Condition {key} must contain conditions")
def validateItems (spelling : Spelling) : List Json → Except WorkflowError Unit
  | [] => .ok ()
  | item :: rest => do
      validateCondition spelling item
      validateItems spelling rest
end

/-- `raw["seconds"]` of a wait step; only a type or value error is reported as a spec error. -/
def validateSeconds (stepId : String) (raw : Json) : Except WorkflowError Int := do
  let seconds ← match raw.toInt with
    | .ok seconds => .ok seconds
    | .error .overflowError => .error .overflow
    | .error _ => .error (.spec s!"Wait step {stepId} seconds must be an integer")
  if seconds < 1 ∨ maxWaitSeconds < seconds then
    .error (.spec s!"Wait step {stepId} seconds is outside policy")
  else .ok seconds

def validateAction (spelling : Spelling) (stepId : String) (raw : Fields) :
    Except WorkflowError StepKind :=
  let capabilityId := lower (strip (operand spelling raw "capability_id" ""))
  if capabilityId = "" then .error (.spec s!"Step {stepId} requires capability_id")
  else if startsWith capabilityId "workflow." then
    .error (.spec "Workflow recursion/self-modification is not enabled")
  else match Fields.getOr raw "arguments" (.obj []) with
    | .obj arguments => .ok (.action capabilityId arguments)
    | _ => .error (.spec s!"Step {stepId} arguments must be an object")

def validateWait (stepId : String) (raw : Fields) : Except WorkflowError StepKind :=
  match Fields.get raw "seconds", Fields.get raw "until" with
  | some seconds, none => (validateSeconds stepId seconds).map .waitSeconds
  | none, some (.str text) =>
      if strip text = "" then
        .error (.spec s!"Wait step {stepId} until must be an ISO time or template")
      else .ok (.waitUntil (strip text))
  | none, some _ => .error (.spec s!"Wait step {stepId} until must be an ISO time or template")
  | _, _ => .error (.spec s!"Wait step {stepId} needs exactly one of seconds or until")

def validateDepends (spelling : Spelling) (seen : List String) (stepId : String) (raw : Fields) :
    Except WorkflowError (List String) :=
  match Fields.getOr raw "depends_on" (.arr []) with
  | .arr items =>
      let depends := items.map (Json.toStr spelling)
      if depends.any fun item => !seen.contains item then
        .error (.spec s!"Step {stepId} may only depend on earlier step ids")
      else if depends.Nodup then .ok depends
      else .error (.spec s!"Step {stepId} contains duplicate dependencies")
  | _ => .error (.spec s!"Step {stepId} depends_on must be an array")

def validateStep (spelling : Spelling) (seen : List String) (index : Nat) :
    Json → Except WorkflowError Step
  | .obj raw => do
      let stepId := strip (operand spelling raw "id" s!"step_{index + 1}")
      if !isStepId stepId then throw (.spec s!"Invalid step id: {stepId}")
      if seen.contains stepId then throw (.spec s!"Duplicate step id: {stepId}")
      let dependsOn ← validateDepends spelling seen stepId raw
      let kind := lower (strip (operand spelling raw "kind" "action"))
      if kind ≠ "action" ∧ kind ≠ "wait" then throw (.spec s!"Unsupported step kind: {kind}")
      let onError := lower (strip (operand spelling raw "on_error" "stop"))
      if onError ≠ "stop" ∧ onError ≠ "continue" then
        throw (.spec s!"Step {stepId} on_error must be stop or continue")
      match Fields.get raw "when" with
      | some condition => validateCondition spelling condition
      | none => pure ()
      let kind ← if kind = "action" then validateAction spelling stepId raw
        else validateWait stepId raw
      return { id := stepId, kind, dependsOn,
               onError := if onError = "stop" then .stop else .continue,
               when := Fields.get raw "when" }
  | _ => .error (.spec s!"Step {index + 1} must be an object")

def validateSteps (spelling : Spelling) (seen : List String) (index : Nat) :
    List Json → Except WorkflowError (List Step)
  | [] => .ok []
  | raw :: rest => do
      let step ← validateStep spelling seen index raw
      let steps ← validateSteps spelling (step.id :: seen) (index + 1) rest
      return step :: steps

def validateWorkflowSpec (spelling : Spelling) : Json → Except WorkflowError (List Step)
  | .obj value =>
      if maxSpecBytes < ((Json.obj value).dumps spelling).utf8ByteSize then
        .error (.spec "Workflow spec is too large")
      else match Fields.get value "steps" with
        | some (.arr raw) =>
            if raw.isEmpty then .error (.spec "Workflow needs at least one step")
            else if maxSteps < raw.length then
              .error (.spec s!"Workflow supports at most {maxSteps} steps")
            else validateSteps spelling [] 0 raw
        | _ => .error (.spec "Workflow needs at least one step")
  | _ => .error (.spec "Workflow spec must be an object")

/-! References and templates. -/

/-- One segment of a reference. `int` rejects some segments that `isdigit` accepts, and its
`ValueError` is no `WorkflowSpecError`. -/
def pathStep (reference : String) : Json → String → Except WorkflowError Json
  | .obj fields, part =>
      match Fields.get fields part with
      | some value => .ok value
      | none => .error (.spec s!"Template reference is unavailable: {reference}")
  | .arr items, part =>
      if isDigit part then
        match parseInt part with
        | none => .error (.value s!"invalid literal for int() with base 10: {part}")
        | some index =>
            match items[index.toNat]? with
            | some value => .ok value
            | none => .error (.spec s!"Template index is unavailable: {reference}")
      else .error (.spec s!"Template reference is unavailable: {reference}")
  | _, _ => .error (.spec s!"Template reference is unavailable: {reference}")

def pathValue (context : Json) (reference : String) : Except WorkflowError Json :=
  (split '.' reference).foldlM (pathStep reference) context

def isBrace (c : Char) : Bool := c.toNat = 123 || c.toNat = 125

/-- The group of `_TEMPLATE` for what stands between the braces. -/
def templateGroup (body : List Char) : List Char :=
  match stripChars body with
  | [] => body.drop (body.length - 1)
  | group => group

/-- `_TEMPLATE` at the head of a text: the reference, and how many characters it takes. -/
def templateAt (text : List Char) : Option (String × Nat) :=
  match text with
  | first :: second :: rest =>
      let body := rest.takeWhile fun c => !isBrace c
      match rest.dropWhile fun c => !isBrace c with
      | third :: fourth :: _ =>
          if first.toNat = 123 ∧ second.toNat = 123 ∧ third.toNat = 125 ∧ fourth.toNat = 125 ∧
              body ≠ [] then
            some (String.ofList (templateGroup body), body.length + 4)
          else none
      | _ => none
  | _ => none

inductive Piece where
  | literal (c : Char)
  | template (reference : String)
  deriving DecidableEq

/-- The text as `_TEMPLATE.sub` scans it; `skip` characters belong to the last match. -/
def pieces : Nat → List Char → List Piece
  | _, [] => []
  | skip + 1, _ :: rest => pieces skip rest
  | 0, c :: rest =>
      match templateAt (c :: rest) with
      | some (reference, taken) => .template reference :: pieces (taken - 1) rest
      | none => .literal c :: pieces 0 rest

/-- `_TEMPLATE.fullmatch(text)` -/
def fullTemplate (text : String) : Option String :=
  match templateAt text.toList with
  | some (reference, taken) => if taken = text.toList.length then some reference else none
  | none => none

def substituted (spelling : Spelling) : Json → String
  | .arr items => (Json.arr items).dumps spelling
  | .obj fields => (Json.obj fields).dumps spelling
  | .null => ""
  | value => value.toStr spelling

def renderPiece (spelling : Spelling) (context : Json) : Piece → Except WorkflowError String
  | .literal c => .ok (String.ofList [c])
  | .template reference => (pathValue context reference).map (substituted spelling)

def renderPieces (spelling : Spelling) (context : Json) : List Piece → Except WorkflowError String
  | [] => .ok ""
  | piece :: rest => do
      let first ← renderPiece spelling context piece
      let others ← renderPieces spelling context rest
      return first ++ others

def renderText (spelling : Spelling) (context : Json) (text : String) : Except WorkflowError Json :=
  match fullTemplate text with
  | some reference => pathValue context reference
  | none => (renderPieces spelling context (pieces 0 text.toList)).map .str

mutual
def renderValue (spelling : Spelling) (context : Json) : Json → Except WorkflowError Json
  | .obj fields => (renderFields spelling context fields).map .obj
  | .arr items => (renderItems spelling context items).map .arr
  | .str text => renderText spelling context text
  | .null => .ok .null
  | .bool value => .ok (.bool value)
  | .int value => .ok (.int value)
  | .float value => .ok (.float value)
def renderItems (spelling : Spelling) (context : Json) : List Json → Except WorkflowError (List Json)
  | [] => .ok []
  | item :: rest => do
      let first ← renderValue spelling context item
      let others ← renderItems spelling context rest
      return first :: others
def renderFields (spelling : Spelling) (context : Json) : Fields → Except WorkflowError Fields
  | [] => .ok []
  | (key, item) :: rest => do
      let first ← renderValue spelling context item
      let others ← renderFields spelling context rest
      return (key, first) :: others
end

/-! Evaluation of conditions. -/

/-- The comparison that an operator names; `none` is `TypeError`. Unlike validation,
evaluation does not trim the operator, and an unknown one is false. -/
def compareValues (op : String) (actual expected : Json) : Option Bool :=
  match op with
  | "eq" => some (Json.same actual expected)
  | "ne" => some (!Json.same actual expected)
  | "gt" => Json.order .gt actual expected
  | "gte" => Json.order .gte actual expected
  | "lt" => Json.order .lt actual expected
  | "lte" => Json.order .lte actual expected
  | "in" => Json.member actual expected
  | "not_in" => (Json.member actual expected).map not
  | _ => some false

/-- The reference of a condition, `none` when it is unavailable in the context. -/
def actualValue (context : Json) (reference : String) : Except WorkflowError (Option Json) :=
  match pathValue context reference with
  | .ok value => .ok (some value)
  | .error (.spec _) => .ok none
  | .error error => .error error

/-- The outcome of a condition; an unavailable reference fails everything but `ne`. -/
def leafOutcome (op : String) (actual : Option Json) (expected : Json) : Except WorkflowError Bool :=
  if op = "exists" then .ok actual.isSome
  else if op = "truthy" then .ok ((actual.map Json.truthy).getD false)
  else match actual with
    | none => .ok (op = "ne")
    | some actual =>
        match compareValues op actual expected with
        | some outcome => .ok outcome
        | none => .error (.spec "Condition values cannot be compared")

def evaluateLeaf (spelling : Spelling) (context : Json) (fields : Fields) :
    Except WorkflowError Bool := do
  let actual ← actualValue context (operand spelling fields "ref" "")
  let op := lower (operand spelling fields "op" "truthy")
  let expected ← renderValue spelling context ((Fields.get fields "value").getD .null)
  leafOutcome op actual expected

/-- `all(..)` for a conjunction, `any(..)` for a disjunction: an item that differs from
`conjunction` decides. -/
def evaluateKey (conjunction : Bool) : String := if conjunction then "all" else "any"

mutual
def evaluateCondition (spelling : Spelling) (context : Json) : Json → Except WorkflowError Bool
  | .obj fields =>
      if Fields.has fields "all" then evaluateGroup spelling context true fields
      else if Fields.has fields "any" then evaluateGroup spelling context false fields
      else evaluateLeaf spelling context fields
  | .null => .ok false
  | .bool value => .ok value
  | .int value => .ok (Json.truthy (.int value))
  | .float value => .ok (Json.truthy (.float value))
  | .str text => .ok (Json.truthy (.str text))
  | .arr items => .ok (Json.truthy (.arr items))
def evaluateGroup (spelling : Spelling) (context : Json) (conjunction : Bool) :
    Fields → Except WorkflowError Bool
  | [] => .ok conjunction
  | (name, value) :: rest =>
      if name = evaluateKey conjunction then evaluateChildren spelling context conjunction value
      else evaluateGroup spelling context conjunction rest
/-- A group may also be a dictionary or a text, whose keys or characters are all truthy texts. -/
def evaluateChildren (spelling : Spelling) (context : Json) (conjunction : Bool) :
    Json → Except WorkflowError Bool
  | .arr items => evaluateItems spelling context conjunction items
  | .obj fields => .ok (if conjunction then fields.all (·.1 ≠ "") else fields.any (·.1 ≠ ""))
  | .str text => .ok (conjunction || text ≠ "")
  | _ => .error .typeError
def evaluateItems (spelling : Spelling) (context : Json) (conjunction : Bool) :
    List Json → Except WorkflowError Bool
  | [] => .ok conjunction
  | item :: rest => do
      let outcome ← evaluateCondition spelling context item
      if outcome = conjunction then evaluateItems spelling context conjunction rest
      else return outcome
end

end Operly.Workflow
