import Mathlib.Data.List.Dedup
import Operly.Python.Exceptions
import Operly.Python.Sections
import Operly.Python.Values

/-! The objective of a request: what a model may say about it, the query that it compiles and the path that it takes. -/

namespace Operly.Agent
open Python

inductive ObjectiveKind where
  | respond | retrieve | act | composite | wait
  deriving DecidableEq

inductive ObjectiveOperation where
  | respond | retrieve | analyze | transform | act | wait
  deriving DecidableEq

inductive ObjectiveComplexity where
  | trivial | simple | compound | openEnded
  deriving DecidableEq

inductive RuntimeDispatchPath where
  | respond | directCapability | agentLoop | wait
  deriving DecidableEq

def ObjectiveKind.value : ObjectiveKind → String
  | .respond => "respond"
  | .retrieve => "retrieve"
  | .act => "act"
  | .composite => "composite"
  | .wait => "wait"

def ObjectiveOperation.value : ObjectiveOperation → String
  | .respond => "respond"
  | .retrieve => "retrieve"
  | .analyze => "analyze"
  | .transform => "transform"
  | .act => "act"
  | .wait => "wait"

def ObjectiveComplexity.value : ObjectiveComplexity → String
  | .trivial => "trivial"
  | .simple => "simple"
  | .compound => "compound"
  | .openEnded => "open_ended"

def RuntimeDispatchPath.value : RuntimeDispatchPath → String
  | .respond => "respond"
  | .directCapability => "direct_capability"
  | .agentLoop => "agent_loop"
  | .wait => "wait"

/-- An enumeration called with a value; `none` is its `ValueError`. -/
def ofValue {α : Type} (value : α → String) (members : List α) (text : String) : Option α :=
  members.find? (value · = text)

def ObjectiveKind.ofValue : String → Option ObjectiveKind :=
  Agent.ofValue ObjectiveKind.value [.respond, .retrieve, .act, .composite, .wait]

def ObjectiveOperation.ofValue : String → Option ObjectiveOperation :=
  Agent.ofValue ObjectiveOperation.value [.respond, .retrieve, .analyze, .transform, .act, .wait]

def ObjectiveComplexity.ofValue : String → Option ObjectiveComplexity :=
  Agent.ofValue ObjectiveComplexity.value [.trivial, .simple, .compound, .openEnded]

structure ObjectiveInterpreterLimits where
  maxObjectiveChars : Nat := 1600
  maxResourceHints : Nat := 8
  maxResourceHintChars : Nat := 80

structure ObjectiveIR where
  objective : String
  kind : ObjectiveKind
  operations : List ObjectiveOperation
  resourceHints : List String
  requiresExternalState : Bool
  requiresMutation : Bool
  requiresFutureWait : Bool
  complexity : ObjectiveComplexity
  deriving DecidableEq

def ObjectiveOperation.external (operation : ObjectiveOperation) : Bool :=
  [ObjectiveOperation.retrieve, .act, .wait].contains operation

namespace ObjectiveIR
variable (objective : ObjectiveIR)

def externalOperations : List ObjectiveOperation := objective.operations.filter (·.external)

def writtenParts : List String :=
  objective.objective ::
    (if objective.resourceHints = [] then [] else ["resources " ++ " ".intercalate objective.resourceHints])

def capabilityQuery : String :=
  if objective.requiresExternalState = false then ""
  else
    let operations := objective.externalOperations.map (·.value)
    " | ".intercalate (objective.writtenParts ++
      if operations = [] then [] else ["operations " ++ " ".intercalate operations])

def dispatchPath : RuntimeDispatchPath :=
  if objective.requiresFutureWait ∨ objective.kind = .wait then .wait
  else if objective.requiresExternalState = false then .respond
  else if objective.kind = .composite ∨ objective.complexity = .compound ∨ objective.complexity = .openEnded ∨
      1 < objective.externalOperations.dedup.length then .agentLoop
  else .directCapability

end ObjectiveIR

structure ObjectiveInterpretationError where
  message : String
  code : String
  deriving DecidableEq

/-! ### `ObjectiveInterpreter._validate` -/

def expectedFields : List String :=
  ["objective", "kind", "operations", "resource_hints", "requires_external_state", "requires_mutation",
    "requires_future_wait", "complexity"]

def authorityShapedFields : List String :=
  ["workspace_id", "user_id", "principal_id", "membership_id", "role", "permissions", "approval_id", "credentials",
    "provider_id", "provider_url", "scope", "scope_kind", "surface"]

def invalidOutput (message : String) : ObjectiveInterpretationError := ⟨message, "invalid_objective_output"⟩
def inconsistentOutput (message : String) : ObjectiveInterpretationError := ⟨message, "inconsistent_objective_output"⟩

/-- `str(value or "")` -/
def textOf (spelling : Spelling) (value : Option Json) : String :=
  ((value.filter Json.truthy).map (Json.toStr spelling)).getD ""

/-- `" ".join(text.split())`, which is also what `re.sub(r"\s+", " ", text)` makes of a stripped text -/
def collapse (text : String) : String := " ".intercalate (words text)

def readOperations (spelling : Spelling) : List ObjectiveOperation → List Json →
    Except ObjectiveInterpretationError (List ObjectiveOperation)
  | operations, [] => .ok operations
  | operations, value :: rest =>
      match ObjectiveOperation.ofValue (lower (strip (value.toStr spelling))) with
      | none => .error (invalidOutput "objective contains an unsupported operation")
      | some operation =>
          readOperations spelling (if operation ∈ operations then operations else operations ++ [operation]) rest

def readHints (spelling : Spelling) (limits : ObjectiveInterpreterLimits) : List String → List Json →
    Except ObjectiveInterpretationError (List String)
  | hints, [] => .ok hints
  | hints, value :: rest =>
      let hint := collapse (lower (strip (textOf spelling (some value))))
      if hint = "" ∨ limits.maxResourceHintChars < hint.length then
        .error (invalidOutput "resource hint is empty or too long")
      else readHints spelling limits (if hint ∈ hints then hints else hints ++ [hint]) rest

def readFlag (payload : Fields) (fieldName : String) : Except ObjectiveInterpretationError Bool :=
  match Fields.get payload fieldName with
  | some (.bool value) => .ok value
  | _ => .error (invalidOutput (fieldName ++ " must be boolean"))

def checkConsistency (objective : ObjectiveIR) : Except ObjectiveInterpretationError Unit :=
  if (objective.requiresMutation || objective.requiresFutureWait) && !objective.requiresExternalState then
    .error (inconsistentOutput "mutation/future wait cannot exist without external state")
  else if objective.kind = .respond ∧ objective.requiresExternalState = true then
    .error (inconsistentOutput "respond objectives cannot require external state")
  else if objective.kind = .retrieve ∧ (objective.requiresExternalState = false ∨ objective.requiresMutation = true ∨
      .retrieve ∉ objective.operations) then
    .error (inconsistentOutput "retrieve objective flags are inconsistent")
  else if objective.kind = .act ∧ (objective.requiresExternalState = false ∨ objective.requiresMutation = false ∨
      .act ∉ objective.operations) then
    .error (inconsistentOutput "act objective flags are inconsistent")
  else if objective.kind = .wait ∧ (objective.requiresExternalState = false ∨ objective.requiresFutureWait = false ∨
      .wait ∉ objective.operations) then
    .error (inconsistentOutput "wait objective flags are inconsistent")
  else .ok ()

def checkFields (payload : Fields) : Except ObjectiveInterpretationError Unit :=
  let keys := payload.map (·.1)
  if keys.any fun key => !expectedFields.contains key && authorityShapedFields.contains key then
    .error ⟨"objective interpreter attempted to supply authority-shaped fields", "objective_authority_violation"⟩
  else if ¬ (keys.all expectedFields.contains ∧ expectedFields.all keys.contains) then
    .error (invalidOutput "objective interpreter output fields do not match the contract")
  else .ok ()

def validateRest (spelling : Spelling) (limits : ObjectiveInterpreterLimits) (payload : Fields) (objective : String)
    (kind : ObjectiveKind) (complexity : ObjectiveComplexity) : Except ObjectiveInterpretationError ObjectiveIR :=
  match Fields.get payload "operations" with
  | some (.arr (first :: others)) => do
      let operations ← readOperations spelling [] (first :: others)
      match Fields.get payload "resource_hints" with
      | some (.arr rawHints) => do
          if limits.maxResourceHints < rawHints.length then throw (invalidOutput "too many resource hints")
          let resourceHints ← readHints spelling limits [] rawHints
          let requiresExternalState ← readFlag payload "requires_external_state"
          let requiresMutation ← readFlag payload "requires_mutation"
          let requiresFutureWait ← readFlag payload "requires_future_wait"
          let result : ObjectiveIR := ⟨objective, kind, operations, resourceHints, requiresExternalState,
            requiresMutation, requiresFutureWait, complexity⟩
          checkConsistency result
          return result
      | _ => throw (invalidOutput "resource_hints must be an array")
  | _ => throw (invalidOutput "objective operations must be a non-empty array")

def validate (spelling : Spelling) (limits : ObjectiveInterpreterLimits) (payload : Fields) :
    Except ObjectiveInterpretationError ObjectiveIR := do
  checkFields payload
  let objective := collapse (replaceChar (Char.ofNat 0) " " (textOf spelling (Fields.get payload "objective")))
  if objective = "" ∨ limits.maxObjectiveChars < objective.length then
    throw (invalidOutput "objective is empty or exceeds the interpreter limit")
  let named (fieldName : String) := lower (strip (((Fields.get payload fieldName).getD .null).toStr spelling))
  match ObjectiveKind.ofValue (named "kind"), ObjectiveComplexity.ofValue (named "complexity") with
  | some kind, some complexity => validateRest spelling limits payload objective kind complexity
  | _, _ => throw (invalidOutput "objective kind or complexity is unsupported")

end Operly.Agent
