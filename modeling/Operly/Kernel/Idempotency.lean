import Operly.Kernel.Approvals

/-! The durable at-most-once boundary of mutating requests. -/

namespace Operly.Kernel
open Python Security Concurrent Fallible

structure IdempotencyReservation where
  claim : Option KernelRequestClaim
  replay : Option RuntimeResponse := none

def scopeIdentity (context : ExecutionContext) : Except KernelError String :=
  if context.isPersonal then
    if !isSet context.userId then .error (.idempotencyConflict "Personal request is missing its owner")
    else .ok ("personal:" ++ context.userId.getD "")
  else if !isSet context.workspaceId then
    .error (.idempotencyConflict "Workspace request is missing its workspace")
  else .ok ("workspace:" ++ context.workspaceId.getD "")

def metadataText (deployment : Deployment) (metadata : Fields) (key : String) : String :=
  match Fields.get metadata key with
  | some value => if value.truthy then strip (deployment.str value) else ""
  | none => ""

def ingressNamespace (deployment : Deployment) (context : ExecutionContext) :
    Except KernelError String :=
  if lower (metadataText deployment context.metadata "ingress") ≠ "operly_mcp" then .ok ""
  else
    let clientId := metadataText deployment context.metadata "mcp_client_id"
    let grantId := metadataText deployment context.metadata "mcp_grant_id"
    if clientId = "" || grantId = "" then
      .error (.idempotencyConflict "MCP request is missing its authenticated client/grant identity")
    else .ok (":mcp:" ++ String.ofList
      ((deployment.digest (clientId ++ "\x00" ++ grantId)).toList.take 24))

/-- `context.principal_id or context.user_id or "anonymous"` -/
def principalOf (context : ExecutionContext) : String :=
  if isSet context.principalId then context.principalId.getD ""
  else if isSet context.userId then context.userId.getD ""
  else "anonymous"

def idempotencyKey (deployment : Deployment) (context : ExecutionContext) (requestId : String) :
    Except KernelError String := do
  let scope ← scopeIdentity context
  let ingress ← ingressNamespace deployment context
  return scope ++ ":" ++ principalOf context ++ ingress ++ ":" ++ requestId

/-- `_arguments_hash(request)`: the goal, the capability and the arguments of a request. -/
def requestHash (deployment : Deployment) (request : RuntimeRequest) : String :=
  deployment.sha256 (Json.obj [("goal", .str request.goal),
    ("capability_id", textOrNull request.capabilityId), ("arguments", .obj request.arguments)]).sortKeys

theorem argumentsHash_inj {deployment : Deployment} (injective : Function.Injective deployment.sha256)
    {first second : String} {left right : Fields}
    (same : argumentsHash deployment first left = argumentsHash deployment second right) :
    first = second ∧ (Json.obj left).sortKeys = (Json.obj right).sortKeys := by
  have documents := injective same
  simp +decide [Json.sortKeys, Json.sortFields, Json.byKey, List.orderedInsert] at documents
  refine ⟨documents.2, ?_⟩
  simpa [Json.sortKeys, Json.byKey] using documents.1

theorem requestHash_inj {deployment : Deployment} (injective : Function.Injective deployment.sha256)
    {first second : RuntimeRequest} (same : requestHash deployment first = requestHash deployment second) :
    first.goal = second.goal ∧ first.capabilityId = second.capabilityId ∧
      (Json.obj first.arguments).sortKeys = (Json.obj second.arguments).sortKeys := by
  have documents := injective same
  simp +decide [Json.sortKeys, Json.sortFields, Json.byKey, List.orderedInsert] at documents
  obtain ⟨arguments, capability, goal⟩ := documents
  refine ⟨goal, ?_, by simpa [Json.sortKeys, Json.byKey] using arguments⟩
  revert capability
  cases first.capabilityId <;> cases second.capabilityId <;> simp [textOrNull, Json.sortKeys]

def dictOrNull : Option Fields → Json
  | some fields => .obj fields
  | none => .null

namespace RuntimeResponse

def asDict (response : RuntimeResponse) : Json :=
  .obj [("run_id", .str response.runId), ("status", .str response.status),
    ("capability_id", textOrNull response.capabilityId), ("decision", .str response.decision.value),
    ("result", dictOrNull response.result),
    ("done", .bool response.done), ("trace", .arr (response.trace.map .obj))]

/-- The response with every dictionary in key order: two responses that Python holds equal. -/
def canonical (response : RuntimeResponse) : RuntimeResponse :=
  { response with
    result := response.result.map fun result => Json.byKey (Json.sortFields result)
    trace := response.trace.map fun step => Json.byKey (Json.sortFields step) }

theorem canonical_canonical (response : RuntimeResponse) : response.canonical.canonical = response.canonical := by
  have same : ∀ fields : Fields, Json.byKey (Json.sortFields (Json.byKey (Json.sortFields fields))) =
      Json.byKey (Json.sortFields fields) := by
    intro fields
    have twice := Json.sortKeys_sortKeys (.obj fields)
    simpa only [Json.sortKeys, Json.obj.injEq] using twice
  simp only [canonical, Option.map_map, List.map_map, Function.comp_def, same]

end RuntimeResponse

/-- `payload[key]` -/
def item (payload : Fields) (key : String) : Except KernelError Json :=
  match Fields.get payload key with
  | some value => .ok value
  | none => .error (.lookup key)

/-- `dict(value)` of a JSON value. -/
def toDict : Json → Except KernelError Fields
  | .obj fields => .ok fields
  | .arr [] | .str "" => .ok []
  | .arr _ | .str _ => .error (.value "dictionary update sequence")
  | _ => .error (.other "TypeError")

def optionalText : Option Json → Option String
  | some (.str text) => some text
  | _ => none

def optionalDict : Option Json → Except KernelError (Option Fields)
  | none | some .null => .ok none
  | some value => (toDict value).map some

def storedTrace : Option Json → Except KernelError (List Fields)
  | none => .ok []
  | some (.arr steps) => steps.mapM toDict
  | some _ => .error (.other "TypeError")

def decisionOf (text : String) : Except KernelError AuthorizationDecision :=
  match AuthorizationDecision.ofValue text with
  | some decision => .ok decision
  | none => .error (.value (text ++ " is not a valid AuthorizationDecision"))

def responseFromJson (deployment : Deployment) (value : Json) : Except KernelError RuntimeResponse :=
  match value with
  | .obj payload => do
      let runId ← item payload "run_id"
      let status ← item payload "status"
      let decision ← item payload "decision"
      let decision ← decisionOf (deployment.str decision)
      let result ← optionalDict (Fields.get payload "result")
      let trace ← storedTrace (Fields.get payload "trace")
      return {
        runId := deployment.str runId
        status := deployment.str status
        capabilityId := optionalText (Fields.get payload "capability_id")
        decision
        result
        done := ((Fields.get payload "done").map Json.truthy).getD false
        trace }
  | _ => .error (.other "TypeError")

theorem mapM_toDict (steps : List Fields) : (steps.map Json.obj).mapM toDict = .ok steps := by
  induction steps with
  | nil => rfl
  | cons step rest ih =>
    rw [List.map_cons, List.mapM_cons, ih]
    rfl

theorem asDict_sortKeys (response : RuntimeResponse) : response.asDict.sortKeys =
    .obj [("capability_id", textOrNull response.capabilityId), ("decision", .str response.decision.value),
      ("done", .bool response.done), ("result", dictOrNull response.canonical.result),
      ("run_id", .str response.runId), ("status", .str response.status),
      ("trace", .arr (response.canonical.trace.map .obj))] := by
  have result : (dictOrNull response.result).sortKeys = dictOrNull response.canonical.result := by
    cases same : response.result with
    | none => simp [RuntimeResponse.canonical, same, dictOrNull, Json.sortKeys]
    | some fields => simp [RuntimeResponse.canonical, same, dictOrNull, Json.sortKeys]
  have capability : (textOrNull response.capabilityId).sortKeys = textOrNull response.capabilityId := by
    cases response.capabilityId <;> simp [textOrNull, Json.sortKeys]
  have trace : Json.sortItems (response.trace.map .obj) = response.canonical.trace.map .obj := by
    rw [Json.sortItems_eq]
    simp [RuntimeResponse.canonical, Json.sortKeys]
  simp only [RuntimeResponse.asDict, Json.sortKeys, Json.sortFields, result, capability, trace]
  simp +decide [Json.byKey, List.orderedInsert]

theorem responseFromJson_asDict (deployment : Deployment) (response : RuntimeResponse) :
    responseFromJson deployment response.asDict.sortKeys = .ok response.canonical := by
  rw [asDict_sortKeys]
  have capability : optionalText (some (textOrNull response.capabilityId)) = response.capabilityId := by
    cases response.capabilityId <;> rfl
  have result : optionalDict (some (dictOrNull response.canonical.result)) =
      .ok response.canonical.result := by
    cases response.canonical.result <;> rfl
  have trace : storedTrace (some (.arr (response.canonical.trace.map .obj))) =
      .ok response.canonical.trace := mapM_toDict _
  have decision : decisionOf response.decision.value = .ok response.decision := by
    rw [decisionOf, AuthorizationDecision.ofValue_value]
  simp only [responseFromJson, item, Fields.get, List.find?_cons, String.reduceEq, decide_false,
    decide_true, Option.map_some, capability, result, trace, bind, Except.bind,
    deployment.str_text, decision]
  rfl

def validateExisting (deployment : Deployment) (claim : KernelRequestClaim) (hash : String) :
    Except KernelError (Option RuntimeResponse) :=
  if claim.argumentsHash ≠ hash then
    .error (.idempotencyConflict
      "request_id was already used with a different goal, capability, or argument payload")
  else
    match claim.status with
    | .completed => (responseFromJson deployment claim.responseJson).map some
    | .running => .error (.idempotencyInProgress "An identical request is already executing")
    | .other _ => .ok none

def findCompletedRequest (deployment : Deployment) (context : ExecutionContext)
    (request : RuntimeRequest) : Session (Option RuntimeResponse) := do
  let requestId := clean request.requestId
  if requestId = "" then pure none
  else
    let key ← Fallible.ofExcept (idempotencyKey deployment context requestId)
    let existing ← query (.claimByKey key)
    match existing with
    | none => pure none
    | some claim => Fallible.ofExcept (validateExisting deployment claim (requestHash deployment request))

def newClaim (deployment : Deployment) (context : ExecutionContext) (request : RuntimeRequest)
    (key requestId runId : String) : KernelRequestClaim where
  idempotencyKey := key
  requestId := requestId
  scopeKind := context.scopeKind
  workspaceId := context.workspaceId
  ownerUserId := if context.isPersonal then context.userId else none
  principalId := context.principalId
  capabilityId := request.capabilityId
  argumentsHash := requestHash deployment request
  status := .running
  runId := some runId
  responseJson := .obj []

/-- The approval that a reservation claims with its own commit: whichever one the request
names, with the capability taken from the approval itself. -/
def approvalToClaim (deployment : Deployment) (context : ExecutionContext) (request : RuntimeRequest)
    (requestId : String) : Session (Option ApprovalWrite) := do
  if isSet request.approvalId then
    let approvalId := request.approvalId.getD ""
    let approval ← approvalForContext context approvalId
    let write ← claimApprovedInvocation deployment context approvalId requestId request
      approval.capabilityId request.arguments
    pure (some write)
  else pure none

def afterLostRace (deployment : Deployment) (key hash : String) : Session IdempotencyReservation := do
  query .rollback
  let existing ← query (.claimByKey key)
  match existing with
  | none => raise (.idempotencyInProgress "An identical request is being claimed")
  | some claim =>
      let replay ← Fallible.ofExcept (validateExisting deployment claim hash)
      match replay with
      | some response => pure { claim := some claim, replay := some response }
      | none => raise (.idempotencyInProgress "An identical request is already executing")

def reserveRequest (deployment : Deployment) (context : ExecutionContext) (request : RuntimeRequest)
    (runId : String) : Session IdempotencyReservation := do
  let requestId := clean request.requestId
  if requestId = "" then
    raise (.idempotencyConflict "Mutating capability execution requires a stable request_id")
  else
    let key ← Fallible.ofExcept (idempotencyKey deployment context requestId)
    let hash := requestHash deployment request
    let existing ← query (.claimByKey key)
    match existing with
    | some claim =>
        let replay ← Fallible.ofExcept (validateExisting deployment claim hash)
        match replay with
        | some response => pure { claim := some claim, replay := some response }
        | none =>
            commit { claim := some (.running claim.idempotencyKey runId) }
            pure { claim := some { claim with
              status := .running, runId := some runId, responseJson := .obj [] } }
    | none =>
        let approval ← approvalToClaim deployment context request requestId
        let claim := newClaim deployment context request key requestId runId
        let flushed ← query (.commit { claim := some (.insert claim), approval })
        match flushed with
        | .committed => pure { claim := some claim }
        | .integrityError => afterLostRace deployment key hash
        | .failed error => raise error

def completeRequest (claim : Option KernelRequestClaim) (response : RuntimeResponse) : Option ClaimWrite :=
  claim.map fun claim => .completed claim.idempotencyKey response.runId response.capabilityId
    response.asDict.sortKeys

end Operly.Kernel
