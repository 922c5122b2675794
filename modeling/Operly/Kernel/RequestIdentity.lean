import Operly.Kernel.Delegation
import Operly.Python.Separated

/-! Which requests share one idempotency key. -/

namespace Operly.Kernel
open Python Security

structure KeyedRequest where
  base : BaseContext
  requestId : String

structure RequestIdentity where
  scopeKind : ScopeKind
  owner : String
  principal : Option String
  client : Option (String × String)
  requestId : String
  deriving DecidableEq

/-- The digest of an authenticated client and grant, as far as the key keeps it. -/
def clientDigest (deployment : Deployment) (text : String) : String :=
  String.ofList ((deployment.digest text).toList.take 24)

namespace KeyedRequest

variable (deployment : Deployment) (request : KeyedRequest)

def context : ExecutionContext := request.base.context

/-- `str(request.request_id or "").strip()` -/
def strippedId : String := strip request.requestId

def owner : String :=
  if request.context.isPersonal then request.context.userId.getD ""
  else request.context.workspaceId.getD ""

def client : Option (String × String) :=
  if lower (metadataText deployment request.context.metadata "ingress") = "operly_mcp" then
    some (metadataText deployment request.context.metadata "mcp_client_id",
      metadataText deployment request.context.metadata "mcp_grant_id")
  else none

def clientText : Option String :=
  (request.client deployment).map fun client => client.1 ++ "\x00" ++ client.2

def ingress : String :=
  match request.clientText deployment with
  | some text => ":mcp:" ++ clientDigest deployment text
  | none => ""

def rawPrincipal : String := principalOf request.context

def caller : String := request.rawPrincipal ++ request.ingress deployment

def key : Except KernelError String :=
  idempotencyKey deployment request.context request.strippedId

def identity : RequestIdentity where
  scopeKind := request.context.scopeKind
  owner := request.owner
  principal := request.base.effectivePrincipalKey
  client := request.client deployment
  requestId := request.strippedId

theorem scopeIdentity_eq {scope : String} (found : scopeIdentity request.context = .ok scope) :
    scope = request.context.scopeKind.value ++ ":" ++ request.owner := by
  unfold scopeIdentity at found
  split at found
  · next personal =>
    have kind : request.context.scopeKind = .personal := by
      simpa [ExecutionContext.isPersonal] using personal
    split at found <;> cases found
    simp [owner, personal, kind, ScopeKind.value]
  · next shared =>
    have kind : request.context.scopeKind = .workspace := by
      cases other : request.context.scopeKind with
      | personal => simp [ExecutionContext.isPersonal, other] at shared
      | workspace => rfl
    split at found <;> cases found
    simp [owner, shared, kind, ScopeKind.value]

theorem ingressNamespace_eq {text : String} (found : ingressNamespace deployment request.context = .ok text) :
    text = request.ingress deployment := by
  unfold ingressNamespace at found
  split at found
  · next elsewhere =>
    cases found
    simp [ingress, clientText, client, elsewhere]
  · next through =>
    dsimp only at found
    split at found <;> cases found
    simp [ingress, clientText, client, not_not.mp through, clientDigest]

theorem key_eq {key : String} (computed : request.key deployment = .ok key) :
    key = request.context.scopeKind.value ++ ":" ++
      (request.owner ++ ":" ++ (request.caller deployment ++ ":" ++ request.strippedId)) := by
  unfold KeyedRequest.key idempotencyKey at computed
  cases scope : scopeIdentity request.context with
  | error error => simp [scope, bind, Except.bind] at computed
  | ok scopeText =>
    cases through : ingressNamespace deployment request.context with
    | error error => simp [scope, through, bind, Except.bind] at computed
    | ok ingressText =>
      simp only [scope, through, bind, Except.bind, pure, Except.pure, Except.ok.injEq] at computed
      rw [← computed, request.scopeIdentity_eq scope, request.ingressNamespace_eq deployment through]
      simp [caller, rawPrincipal, String.append_assoc]

end KeyedRequest

/-! ### Fields that move across a colon -/

section Shifts

variable (deployment : Deployment) (first second : KeyedRequest)

/-- The owner of the second request reads on into what follows the owner of the first. -/
def OwnerShift : Prop :=
  ∃ text, second.owner = first.owner ++ ":" ++ text ∧
    first.caller deployment ++ ":" ++ first.strippedId =
      text ++ ":" ++ (second.caller deployment ++ ":" ++ second.strippedId)

/-- The request id of the first request starts with an end of the second one's caller. -/
def RequestIdShift : Prop :=
  first.owner = second.owner ∧ ∃ text, first.strippedId = text ++ ":" ++ second.strippedId ∧
    second.caller deployment = first.caller deployment ++ ":" ++ text

/-- The principal of the second request, which came through no MCP client, spells the client of
the first. -/
def IngressShift : Prop :=
  first.owner = second.owner ∧ first.strippedId = second.strippedId ∧
    (first.client deployment).isSome ∧ second.client deployment = none ∧
      second.rawPrincipal = first.rawPrincipal ++ first.ingress deployment

/-- Fields of the two requests differ, but only by where the colons of their key are read. -/
def Shifted : Prop :=
  first.context.scopeKind = second.context.scopeKind ∧
    (OwnerShift deployment first second ∨ OwnerShift deployment second first ∨
      RequestIdShift deployment first second ∨ RequestIdShift deployment second first ∨
      IngressShift deployment first second ∨ IngressShift deployment second first)

structure Separated : Prop where
  /-- No text moves across a colon. -/
  unshifted : ¬ Shifted deployment first second
  /-- Where all else is the same, the raw principals agree when the namespaced principals and
  the MCP clients do. -/
  spelled : first.context.scopeKind = second.context.scopeKind → first.owner = second.owner →
    first.strippedId = second.strippedId → first.clientText deployment = second.clientText deployment →
    (first.rawPrincipal = second.rawPrincipal ↔
      first.base.effectivePrincipalKey = second.base.effectivePrincipalKey ∧
        first.client deployment = second.client deployment)

structure Aligned : Prop where
  scopeKind : first.context.scopeKind = second.context.scopeKind
  owner : first.owner = second.owner
  rawPrincipal : first.rawPrincipal = second.rawPrincipal
  clientText : first.clientText deployment = second.clientText deployment
  requestId : first.strippedId = second.strippedId

end Shifts

variable {deployment : Deployment} {first second : KeyedRequest}

theorem identity_eq_iff : first.identity deployment = second.identity deployment ↔
    first.context.scopeKind = second.context.scopeKind ∧ first.owner = second.owner ∧
      first.base.effectivePrincipalKey = second.base.effectivePrincipalKey ∧
      first.client deployment = second.client deployment ∧
      first.strippedId = second.strippedId := by
  simp [KeyedRequest.identity]

theorem clientText_congr (same : first.client deployment = second.client deployment) :
    first.clientText deployment = second.clientText deployment := by
  simp [KeyedRequest.clientText, same]

theorem clientText_none {request : KeyedRequest} :
    request.clientText deployment = none ↔ request.client deployment = none := by
  simp [KeyedRequest.clientText]

theorem ingress_length (long : ∀ text, 24 ≤ (deployment.digest text).toList.length)
    {request : KeyedRequest} {text : String} (through : request.clientText deployment = some text) :
    (request.ingress deployment).toList.length = 29 := by
  have enough := long text
  simp only [KeyedRequest.ingress, through, clientDigest, String.toList_append,
    String.toList_ofList, List.length_append, List.length_take]
  have start : ":mcp:".toList.length = 5 := by decide
  omega

def clientTexts (deployment : Deployment) (first second : KeyedRequest) : Set String :=
  {text | first.clientText deployment = some text ∨ second.clientText deployment = some text}

theorem caller_eq_iff (long : ∀ text, 24 ≤ (deployment.digest text).toList.length)
    (noCollision : Set.InjOn (clientDigest deployment) (clientTexts deployment first second)) :
    first.caller deployment = second.caller deployment ↔
      (first.rawPrincipal = second.rawPrincipal ∧
        first.clientText deployment = second.clientText deployment) ∨
      ((first.client deployment).isSome ∧ second.client deployment = none ∧
        second.rawPrincipal = first.rawPrincipal ++ first.ingress deployment) ∨
      ((second.client deployment).isSome ∧ first.client deployment = none ∧
        first.rawPrincipal = second.rawPrincipal ++ second.ingress deployment) := by
  cases left : first.clientText deployment with
  | none =>
    have direct : first.client deployment = none := clientText_none.mp left
    have plain : first.ingress deployment = "" := by simp [KeyedRequest.ingress, left]
    cases right : second.clientText deployment with
    | none =>
      have other : second.client deployment = none := clientText_none.mp right
      have plain' : second.ingress deployment = "" := by simp [KeyedRequest.ingress, right]
      simp [KeyedRequest.caller, plain, plain', direct, other]
    | some text =>
      have other : (second.client deployment).isSome := by
        rw [Option.isSome_iff_ne_none, ne_eq, ← clientText_none, right]
        simp
      simp [KeyedRequest.caller, plain, direct, other]
  | some text =>
    have direct : (first.client deployment).isSome := by
      rw [Option.isSome_iff_ne_none, ne_eq, ← clientText_none, left]
      simp
    cases right : second.clientText deployment with
    | none =>
      have other : second.client deployment = none := clientText_none.mp right
      have plain' : second.ingress deployment = "" := by simp [KeyedRequest.ingress, right]
      simp [KeyedRequest.caller, plain', direct, other, eq_comm]
    | some text' =>
      have other : (second.client deployment).isSome := by
        rw [Option.isSome_iff_ne_none, ne_eq, ← clientText_none, right]
        simp
      have lengths : (first.ingress deployment).toList.length =
          (second.ingress deployment).toList.length := by
        rw [ingress_length long left, ingress_length long right]
      have digests : first.ingress deployment = second.ingress deployment ↔ text = text' := by
        simp only [KeyedRequest.ingress, left, right, String.append_right_inj]
        exact noCollision.eq_iff (.inl left) (.inr right)
      have absent : first.client deployment ≠ none ∧ second.client deployment ≠ none :=
        ⟨Option.isSome_iff_ne_none.mp direct, Option.isSome_iff_ne_none.mp other⟩
      simp [KeyedRequest.caller, append_eq_append_iff_of_length lengths, digests, absent]

theorem scopeText_eq_iff {left right : ScopeKind} {x y : String} :
    left.value ++ ":" ++ x = right.value ++ ":" ++ y ↔ left = right ∧ x = y := by
  cases left <;> cases right <;>
    simp [ScopeKind.value, ← String.toList_inj]

theorem key_eq_key_iff (long : ∀ text, 24 ≤ (deployment.digest text).toList.length)
    (noCollision : Set.InjOn (clientDigest deployment) (clientTexts deployment first second))
    {firstKey secondKey : String} (left : first.key deployment = .ok firstKey)
    (right : second.key deployment = .ok secondKey) :
    firstKey = secondKey ↔ Aligned deployment first second ∨ Shifted deployment first second := by
  have single : (":" : String).toList = [':'] := by decide
  rw [first.key_eq deployment left, second.key_eq deployment right, scopeText_eq_iff,
    join_eq_join_iff single, join_eq_join_iff single, caller_eq_iff long noCollision]
  constructor
  · rintro ⟨kind, ⟨owner, ⟨same, id⟩ | named | named⟩ | shift | shift⟩
    · rcases same with ⟨principal, client⟩ | spelled | spelled
      · exact .inl ⟨kind, owner, principal, client, id⟩
      · exact .inr ⟨kind, by simp [IngressShift, owner, id, spelled]⟩
      · exact .inr ⟨kind, by simp [IngressShift, owner, id, spelled]⟩
    · obtain ⟨text, moved, rest⟩ := named
      exact .inr ⟨kind, .inr (.inr (.inl ⟨owner, text, rest, moved⟩))⟩
    · obtain ⟨text, moved, rest⟩ := named
      exact .inr ⟨kind, .inr (.inr (.inr (.inl ⟨owner.symm, text, rest, moved⟩)))⟩
    · exact .inr ⟨kind, .inl shift⟩
    · exact .inr ⟨kind, .inr (.inl shift)⟩
  · rintro (same | ⟨kind, shift | shift | shift | shift | shift | shift⟩)
    · exact ⟨same.scopeKind, .inl ⟨same.owner, .inl ⟨.inl ⟨same.rawPrincipal, same.clientText⟩,
        same.requestId⟩⟩⟩
    · exact ⟨kind, .inr (.inl shift)⟩
    · exact ⟨kind, .inr (.inr shift)⟩
    · obtain ⟨owner, text, rest, moved⟩ := shift
      exact ⟨kind, .inl ⟨owner, .inr (.inl ⟨text, moved, rest⟩)⟩⟩
    · obtain ⟨owner, text, rest, moved⟩ := shift
      exact ⟨kind, .inl ⟨owner.symm, .inr (.inr ⟨text, moved, rest⟩)⟩⟩
    · obtain ⟨owner, id, spelled⟩ := shift
      exact ⟨kind, .inl ⟨owner, .inl ⟨.inr (.inl spelled), id⟩⟩⟩
    · obtain ⟨owner, id, spelled⟩ := shift
      exact ⟨kind, .inl ⟨owner.symm, .inl ⟨.inr (.inr spelled), id.symm⟩⟩⟩

theorem ne_append_colon (text rest : String) : text ≠ text ++ ":" ++ rest := by
  intro same
  have lengths := congrArg (fun text => text.toList.length) same
  simp at lengths

theorem ne_colon_append (text rest : String) : text ≠ rest ++ ":" ++ text := by
  intro same
  have lengths := congrArg (fun text => text.toList.length) same
  simp at lengths
  omega

theorem identity_ne_of_shifted (shifted : Shifted deployment first second) :
    first.identity deployment ≠ second.identity deployment := by
  rw [ne_eq, identity_eq_iff]
  rintro ⟨-, owner, -, client, id⟩
  rcases shifted with ⟨-, shift | shift | shift | shift | shift | shift⟩
  · obtain ⟨text, moved, -⟩ := shift
    exact ne_append_colon _ text (owner.trans moved)
  · obtain ⟨text, moved, -⟩ := shift
    exact ne_append_colon _ text (owner.symm.trans moved)
  · obtain ⟨-, text, moved, -⟩ := shift
    exact ne_colon_append _ text (id.symm.trans moved)
  · obtain ⟨-, text, moved, -⟩ := shift
    exact ne_colon_append _ text (id.trans moved)
  · obtain ⟨-, -, through, direct, -⟩ := shift
    simp [client, direct] at through
  · obtain ⟨-, -, through, direct, -⟩ := shift
    simp [← client, direct] at through

/-- Two requests share a key exactly when they are one request of one principal through one
ingress, if and only if no field moves across a colon and their raw principals agree when the
namespaced principals do. -/
theorem keys_identify_requests (long : ∀ text, 24 ≤ (deployment.digest text).toList.length)
    (noCollision : Set.InjOn (clientDigest deployment) (clientTexts deployment first second))
    {firstKey secondKey : String} (left : first.key deployment = .ok firstKey)
    (right : second.key deployment = .ok secondKey) :
    (firstKey = secondKey ↔ first.identity deployment = second.identity deployment) ↔
      Separated deployment first second := by
  rw [key_eq_key_iff long noCollision left right]
  constructor
  · intro injective
    have unshifted : ¬ Shifted deployment first second := fun shifted =>
      identity_ne_of_shifted shifted (injective.mp (.inr shifted))
    refine ⟨unshifted, fun kind owner id client => ⟨fun principal => ?_, fun same => ?_⟩⟩
    · have same := identity_eq_iff.mp (injective.mp (.inl ⟨kind, owner, principal, client, id⟩))
      exact ⟨same.2.2.1, same.2.2.2.1⟩
    · have keys := injective.mpr (identity_eq_iff.mpr ⟨kind, owner, same.1, same.2, id⟩)
      exact (keys.resolve_right unshifted).rawPrincipal
  · intro separated
    constructor
    · rintro (same | shifted)
      · have agree := (separated.spelled same.scopeKind same.owner same.requestId
          same.clientText).mp same.rawPrincipal
        exact identity_eq_iff.mpr ⟨same.scopeKind, same.owner, agree.1, agree.2, same.requestId⟩
      · exact absurd shifted separated.unshifted
    · intro same
      obtain ⟨kind, owner, principal, client, id⟩ := identity_eq_iff.mp same
      have text := clientText_congr client
      exact .inl ⟨kind, owner, (separated.spelled kind owner id text).mpr ⟨principal, client⟩,
        text, id⟩

def grantDigest (text : String) : String :=
  if text = "client-1\x00grant-1" then
    "8ee8ecbcc2d9884ddd447cbc86e577f771b5ec518076d435a8021e0bb5dbbdf9"
  else if text = "client-1\x00grant-2" then
    "3bd6e269dd8c6ac761fde518e27652773fe49f13e358e938533ee6856704f754"
  else "e3b0c44298fc1c149afbf4c8996fb92427ae41e4649b934ca495991b7852b855"

def grants : Deployment := { documents with digest := grantDigest }

theorem grantDigest_long (text : String) : 24 ≤ (grants.digest text).toList.length := by
  simp only [grants, grantDigest]
  split
  · decide
  · split <;> decide

def grantRequest (grant : String) : KeyedRequest where
  base := .plain { documentOwner with
    metadata := [("ingress", .str "operly_mcp"), ("mcp_client_id", .str "client-1"),
      ("mcp_grant_id", .str grant)] }
  requestId := "7"

theorem grantRequest_texts : (grantRequest "grant-1").clientText grants = some "client-1\x00grant-1" ∧
    (grantRequest "grant-2").clientText grants = some "client-1\x00grant-2" := by
  decide

theorem grantDigest_injOn : Set.InjOn (clientDigest grants)
    (clientTexts grants (grantRequest "grant-1") (grantRequest "grant-2")) := by
  have different : clientDigest grants "client-1\x00grant-1" ≠
      clientDigest grants "client-1\x00grant-2" := by
    decide
  intro text first text' second same
  simp only [clientTexts, grantRequest_texts, Set.mem_ofPred_eq, Option.some.injEq] at first second
  rcases first with rfl | rfl <;> rcases second with rfl | rfl
  · rfl
  · exact absurd same different
  · exact absurd same.symm different
  · rfl

theorem grantRequest_keys :
    (grantRequest "grant-1").key grants = .ok "workspace:w1:user:u1:mcp:8ee8ecbcc2d9884ddd447cbc:7" ∧
    (grantRequest "grant-2").key grants = .ok "workspace:w1:user:u1:mcp:3bd6e269dd8c6ac761fde518:7" :=
  ⟨by rfl, by rfl⟩

theorem keys_identify_grants :
    ("workspace:w1:user:u1:mcp:8ee8ecbcc2d9884ddd447cbc:7" =
        "workspace:w1:user:u1:mcp:3bd6e269dd8c6ac761fde518:7" ↔
      (grantRequest "grant-1").identity grants = (grantRequest "grant-2").identity grants) ↔
    Separated grants (grantRequest "grant-1") (grantRequest "grant-2") :=
  keys_identify_requests grantDigest_long grantDigest_injOn grantRequest_keys.1 grantRequest_keys.2

def delegatedReader (kind : String) : Except DelegationError DelegatedExecutionContext :=
  delegateExecutionContext (.plain documentOwner) kind "x-1" {"document.read"} "d-1"

theorem delegatedReader_built (kind : String) (principal : PrincipalKind)
    (checked : (match delegatedReader kind with
      | .ok context => decide (context.principalKind = principal ∧
          context.toExecutionContext = { documentOwner with principalId := some "x-1" })
      | .error _ => false) = true) : ∃ context, delegatedReader kind = .ok context ∧
      context.principalKind = principal ∧
      context.toExecutionContext = { documentOwner with principalId := some "x-1" } := by
  cases built : delegatedReader kind with
  | ok context =>
    rw [built] at checked
    exact ⟨context, rfl, of_decide_eq_true checked⟩
  | error error =>
    rw [built] at checked
    cases checked

/-- A workflow and a software project of one name share their keys. -/
theorem delegations_share_keys : ∃ workflow project, delegatedReader "workflow" = .ok workflow ∧
    delegatedReader "software_project" = .ok project ∧
    (KeyedRequest.mk (.delegated workflow) "r1").key grants = .ok "workspace:w1:x-1:r1" ∧
    (KeyedRequest.mk (.delegated project) "r1").key grants = .ok "workspace:w1:x-1:r1" ∧
    (KeyedRequest.mk (.delegated workflow) "r1").identity grants ≠
      (KeyedRequest.mk (.delegated project) "r1").identity grants := by
  obtain ⟨workflow, built, kind, inherited⟩ :=
    delegatedReader_built "workflow" .workflow (by decide)
  obtain ⟨project, built', kind', inherited'⟩ :=
    delegatedReader_built "software_project" .softwareProject (by decide)
  have keyed : ∀ context : DelegatedExecutionContext,
      context.toExecutionContext = { documentOwner with principalId := some "x-1" } →
      (KeyedRequest.mk (.delegated context) "r1").key grants = .ok "workspace:w1:x-1:r1" := by
    intro context same
    have stripped : strip "r1" = "r1" := by decide
    simp only [KeyedRequest.key, KeyedRequest.context, BaseContext.context,
      KeyedRequest.strippedId, same, stripped]
    rfl
  refine ⟨workflow, project, built, built', keyed workflow inherited, keyed project inherited', ?_⟩
  intro same
  have principals := (identity_eq_iff.mp same).2.2.1
  simp [BaseContext.effectivePrincipalKey, DelegatedExecutionContext.principalKey, kind, kind',
    inherited, inherited', PrincipalKind.value] at principals

end Operly.Kernel
