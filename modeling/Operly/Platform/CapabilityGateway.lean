import Operly.Kernel.Phases
import Operly.Platform.Metering

/-! `CapabilityGatewayService.invoke`: the bridge from plugin runtimes into the Kernel, and what
becomes of the charge for an invocation. -/

namespace Operly.Platform
open Python Security Concurrent Kernel

structure RuntimeIdentity where
  id : String
  installationId : String
  deriving DecidableEq

/-- A row of the capability bindings. Its argument constraints are parsed, and `{}` when there are
none. -/
structure CapabilityBinding where
  id : String
  tenantId : String
  subjectKind : String
  subjectId : String
  capabilityId : String
  capabilityVersion : String
  authorityUserId : Option String
  argumentConstraints : Json

section Constraints
variable (str : Json → String)

def iterate : Json → Except KernelError (List Json)
  | .arr items => .ok items
  | .obj fields => .ok (fields.map fun field => .str field.1)
  | .str text => .ok (text.toList.map fun letter => .str (String.singleton letter))
  | _ => .error (.other "TypeError")

def sortedTexts (texts : List String) : String :=
  ", ".intercalate (texts.dedup.insertionSort fun first second => first ≤ second)

/-- `constraints.get(key) or {}`, when that is a dictionary. -/
def constraintTable (constraints : Fields) (key message : String) : Except KernelError Fields :=
  match Fields.get constraints key with
  | none => .ok []
  | some value =>
      if !value.truthy then .ok []
      else match value with
        | .obj fields => .ok fields
        | _ => .error (.permission message)

def checkAllowedFields (constraints result : Fields) : Except KernelError Unit :=
  match Fields.get constraints "allowed_fields" with
  | none | some .null => .ok ()
  | some allowed => do
      let allowed := (← iterate allowed).map str
      let unexpected := (result.map (·.1)).filter fun name => !allowed.contains name
      if unexpected.isEmpty then return
      throw (.permission ("Capability binding does not allow argument fields: " ++
        sortedTexts unexpected))

def fixField (result : Fields) (field : String × Json) : Except KernelError Fields :=
  match Fields.get result field.1 with
  | some value =>
      if value.same field.2 then .ok (Fields.set result field.1 field.2)
      else .error (.permission ("Capability binding fixes argument " ++ field.1))
  | none => .ok (Fields.set result field.1 field.2)

def checkChoice (result : Fields) (field : String × Json) : Except KernelError Unit :=
  match Fields.get result field.1 with
  | none => .ok ()
  | some value =>
      let admitted := match field.2 with
        | .arr choices => choices.any value.same
        | _ => false
      if admitted then .ok ()
      else .error (.permission ("Capability binding rejects argument " ++ field.1))

def checkRequiredFields (constraints result : Fields) : Except KernelError Unit := do
  let required ← match Fields.get constraints "required_fields" with
    | none => pure []
    | some value => if value.truthy then iterate value else pure []
  let missing := (required.map str).filter fun name => !Fields.has result name
  if missing.isEmpty then return
  throw (.permission ("Capability binding requires argument fields: " ++ sortedTexts missing))

def applyConstraints (binding : CapabilityBinding) (arguments : Fields) : Except KernelError Fields :=
  match binding.argumentConstraints with
  | .obj constraints => do
      checkAllowedFields str constraints arguments
      let fixed ← constraintTable constraints "fixed" "Capability binding fixed constraints are invalid"
      let result ← fixed.foldlM fixField arguments
      let enum ← constraintTable constraints "enum" "Capability binding enum constraints are invalid"
      enum.forM (checkChoice result)
      checkRequiredFields str constraints result
      return result
  | _ => .error (.permission "Capability binding argument constraints are invalid")

end Constraints

/-! ### The call -/

structure InvokeRequest where
  bindingId : String
  arguments : Fields
  goal : String
  requestId : Option String
  approvalId : Option String

/-- What the tables and the services answer to a call before it is charged. -/
structure GatewayAnswers where
  authenticate : Except KernelError RuntimeIdentity
  resolveBinding : RuntimeIdentity → String → Except KernelError CapabilityBinding
  resolveExecutionContext : RuntimeIdentity → CapabilityBinding → Except KernelError ExecutionContext
  deployment : Deployment
  uuid : String

structure PreparedCall where
  identity : RuntimeIdentity
  binding : CapabilityBinding
  context : ExecutionContext
  request : RuntimeRequest

def prepareCall (answers : GatewayAnswers) (request : InvokeRequest) : Except KernelError PreparedCall := do
  let identity ← answers.authenticate
  let binding ← answers.resolveBinding identity request.bindingId
  if binding.authorityUserId.isNone then
    throw (.permission "Capability binding has no delegated authority principal")
  if binding.subjectKind ≠ "plugin_installation" ∨ binding.subjectId ≠ identity.installationId then
    throw (.permission "Runtime identity does not own this capability binding")
  let context ← answers.resolveExecutionContext identity binding
  let spec ← answers.deployment.registry.get binding.capabilityId
  if spec.version ≠ binding.capabilityVersion then
    throw (.permission
      "Capability binding version is stale; rebind against the current capability contract")
  let narrowedArguments ← applyConstraints answers.deployment.str binding request.arguments
  let goal := if request.goal = "" then "Hosted digital workload invocation" else request.goal
  let resolvedRequestId := if isSet request.requestId then request.requestId
    else some s!"gateway:{identity.id}:{answers.uuid}"
  return {
    identity, binding, context
    request := {
      goal := String.ofList (goal.toList.take 4000)
      capabilityId := some binding.capabilityId
      arguments := narrowedArguments
      conversationId := some s!"plugin-runtime:{identity.installationId}"
      requestId := resolvedRequestId
      approvalId := request.approvalId } }

def PreparedCall.entry (prepared : PreparedCall) (recordedAt : Int) : LedgerEntry where
  meter := ⟨prepared.binding.tenantId, "plugin_installation", prepared.identity.installationId,
    "capability_invocations"⟩
  quantity := 1
  referenceKind := some "capability_binding"
  referenceId := some prepared.binding.id
  recordedAt := recordedAt

/-- What a provider does first with the transaction of the session it is handed. -/
inductive SessionUse where
  | keeps
  | commits
  | rollsBack
  deriving DecidableEq

inductive ChargeState where
  | pending
  | durable
  | lost
  deriving DecidableEq

namespace ChargeState

/-- What an answered request of the Kernel does to what its session has flushed. -/
def follow (use : SessionUse) : ChargeState → Sigma kernelDb.Answer → ChargeState
  | .pending, ⟨.commit _, (flushed : Flushed)⟩ => if flushed = .committed then .durable else .lost
  | .pending, ⟨.rollback, _⟩ => .lost
  | .pending, ⟨.provider _ _, _⟩ =>
      match use with
      | .keeps => .pending
      | .commits => .durable
      | .rollsBack => .lost
  | state, _ => state

end ChargeState

/-- How a call ends: with an answer that the router commits, if the database lets it, or with the
loss of the process. -/
inductive Ending where
  | answered (result : Except KernelError RuntimeResponse) (stored : Bool)
  | lost

/-- The router commits after a result and after an error of the Kernel, and rolls back after
everything else. -/
def ChargeState.close : ChargeState → Ending → ChargeState
  | .pending, .answered (.ok _) stored => if stored then .durable else .lost
  | .pending, .answered (.error (.execution ..)) stored => if stored then .durable else .lost
  | .pending, _ => .lost
  | state, _ => state

/-- One call of `invoke`, with everything that the world decides about it. -/
structure GatewayCall where
  answers : GatewayAnswers
  request : InvokeRequest
  pid : Nat
  /-- When the charge reads the clock, and when the provider is called. -/
  chargedAt : Int
  invokedAt : Int
  use : SessionUse
  steps : Steps
  ending : Ending

namespace GatewayCall

def prepared (call : GatewayCall) : Except KernelError PreparedCall := prepareCall call.answers call.request

def caller (call : GatewayCall) : Caller := ⟨call.answers.deployment, call.pid⟩

/-- The requests of the call are those of an execution of the Kernel, up to its end or to the
loss of the process. -/
def Lawful (call : GatewayCall) : Prop := ∀ prepared, call.prepared = .ok prepared →
  match call.ending with
  | .answered result _ =>
      Program.Trace (execute call.caller prepared.context prepared.request).run call.steps result
  | .lost => ∃ rest result,
      Program.Trace (execute call.caller prepared.context prepared.request).run (call.steps ++ rest) result

def charge (call : GatewayCall) : ChargeState :=
  (call.steps.foldl (ChargeState.follow call.use) .pending).close call.ending

end GatewayCall

def callsProvider : Sigma kernelDb.Answer → Bool
  | ⟨.provider _ _, _⟩ => true
  | _ => false

structure GatewayOutcome where
  usage : Usage
  invoked : List Effect

/-- `CapabilityGatewayService.invoke`, in the transaction that its router ends. -/
def gatewayInvoke (usage : Usage) (call : GatewayCall) : GatewayOutcome :=
  match call.prepared with
  | .error _ => ⟨usage, []⟩
  | .ok prepared =>
      match usage.consume (prepared.entry call.chargedAt) with
      | .error _ => ⟨usage, []⟩
      | .ok (_, session) =>
          { usage := if call.charge = .durable then session else usage
            invoked := (call.steps.filter callsProvider).map fun _ =>
              ⟨prepared.entry call.chargedAt, call.invokedAt⟩ }

end Operly.Platform
