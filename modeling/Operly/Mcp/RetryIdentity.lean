import Operly.Mcp.Endpoint
import Operly.Python.Equality

/-! The request id under which the Kernel sees a tool call again when its client repeats it. -/

namespace Operly.Mcp
open Python Security Kernel

def objectOr (fields : Fields) (key : String) : Fields :=
  match Fields.getOr fields key (.obj []) with
  | .obj inner => inner
  | _ => []

theorem objectOr_of_get {fields inner : Fields} {key : String}
    (held : Fields.get fields key = some (.obj inner)) : objectOr fields key = inner := by
  cases inner with
  | nil => simp [objectOr, Fields.getOr, held]
  | cons entry rest => simp [objectOr, Fields.getOr, held, Json.truthy]

theorem objectOr_set (fields inner : Fields) (key : String) :
    objectOr (Fields.set fields key (.obj inner)) key = inner := by
  apply objectOr_of_get
  rw [Fields.get_set, if_pos rfl]

namespace McpPost

variable (spelling : Spelling) (post : McpPost)

def payload : Fields :=
  match post.body with
  | .decoded (.obj payload) => payload
  | _ => []

def params : Fields := objectOr post.payload "params"

/-- `params["_meta"]` -/
def fields : Fields := objectOr post.params "_meta"

def CallsInBody : Prop := Mcp.bodyMethod spelling post.payload = "tools/call"

def bodyName : String := Mcp.bodyName spelling post.params

def toolName : String := routed (post.bodyName spelling) (headerName post)

def rpcId : Json := (Fields.get post.payload "id").getD .null

/-- The `operly/requestId` of the client as the endpoint would read it. -/
def requestIdText : String := textOr spelling post.fields "operly/requestId"

def Unmarked : Prop := explicitRequestId spelling post.fields = ""

def hashedText : String :=
  match mcpRpcId post.payload with
  | .ok id => id.hashedText spelling (post.bodyName spelling)
  | .error _ => ""

variable (sha256 : Sha256)

def Reaches : Prop := ∃ serving request, kernelRequest sha256 spelling serving post = .ok request

def Carries (id : String) : Prop :=
  ∀ serving request, kernelRequest sha256 spelling serving post = .ok request → request.requestId = some id

/-- One request id belongs to the request: the Kernel, which strips it, does not find it empty,
and it fits its column. -/
def Identified : Prop :=
  ∃ id, strip id ≠ "" ∧ id.utf8ByteSize ≤ maxRuntimeRequestIdBytes ∧ post.Carries spelling sha256 id

/-- The body names the method, or the client sends a request id of its own that fits. -/
def Anchored : Prop :=
  post.CallsInBody spelling ∨
    strip (post.requestIdText spelling) ≠ "" ∧
      (post.requestIdText spelling).utf8ByteSize ≤ maxRuntimeRequestIdBytes

end McpPost

/-! ### Serving a request -/

section Serving

variable {sha256 : Sha256} {spelling : Spelling} {serving : Serving} {post : McpPost} {request : RuntimeRequest}

theorem textOr_set (fields : Fields) {text : String} (ink : text ≠ "") (key : String) :
    textOr spelling (Fields.set fields key (.str text)) key = text := by
  simp [textOr, Fields.getOr, Fields.get_set, Json.truthy, ink, Json.toStr]

theorem objectMeta_eq_ok {params fields : Fields} (described : objectMeta params = .ok fields) :
    objectOr params "_meta" = fields := by
  unfold objectMeta at described
  split at described
  · next absent =>
    cases described
    simp [objectOr, Fields.getOr, absent]
  · next null =>
    cases described
    simp [objectOr, Fields.getOr, null, Json.truthy]
  · next held =>
    cases described
    exact objectOr_of_get held
  · cases described

theorem callReply_eq_call {context : McpRequestContext} {payload : Fields} {id other : Json} {call : ToolCall}
    (replied : callReply spelling context post id payload = .call other call) :
    ∃ arguments, call = toolCall spelling context
      (routed (bodyName spelling (objectOr payload "params")) (headerName post)) arguments
        (objectOr (objectOr payload "params") "_meta") := by
  unfold callReply at replied
  split at replied
  · next params held =>
    dsimp only at replied
    split at replied
    · cases replied
    · split at replied
      · next arguments fields _ described =>
        cases replied
        have read : objectOr payload "params" = params := by simp only [objectOr, held]
        refine ⟨arguments, ?_⟩
        rw [read, show objectOr params "_meta" = fields by simp only [objectOr, described]]
      · cases replied
  · cases replied

theorem mcpEndpoint_eq_call {context : McpRequestContext} {payload : Fields} {id : Json} {call : ToolCall}
    (replied : mcpEndpoint spelling context post payload = .call id call) :
    ∃ arguments, call = toolCall spelling context
      (routed (bodyName spelling (objectOr payload "params")) (headerName post)) arguments
        (objectOr (objectOr payload "params") "_meta") := by
  unfold mcpEndpoint at replied
  dsimp only at replied
  split_ifs at replied
  exact callReply_eq_call replied

theorem kernelRequest_eq_ok : kernelRequest sha256 spelling serving post = .ok request ↔
    ∃ delivered id call context spec, prepareMcpBody sha256 spelling post.body = .ok delivered ∧
      mcpEndpoint spelling serving.context post delivered = .call id call ∧
      serving.gateway.availableSpec serving.state serving.context call.toolId = .ok (context, spec) ∧
      runtimeRequest serving.context serving.uuid call spec = request := by
  rw [kernelRequest, bind_eq_ok]
  constructor
  · intro ⟨delivered, prepared, handed⟩
    cases replied : mcpEndpoint spelling serving.context post delivered with
    | call id call =>
      rw [replied] at handed
      obtain ⟨⟨context, spec⟩, found, same⟩ := bind_eq_ok.mp (mapError_eq_ok.mp handed)
      exact ⟨delivered, id, call, context, spec, mapError_eq_ok.mp prepared, replied, found,
        pure_eq_ok.mp same⟩
    | _ => simp [replied] at handed
  · intro ⟨delivered, id, call, context, spec, prepared, replied, found, same⟩
    refine ⟨delivered, mapError_eq_ok.mpr prepared, ?_⟩
    rw [replied]
    exact mapError_eq_ok.mpr (bind_eq_ok.mpr ⟨(context, spec), found, pure_eq_ok.mpr same⟩)

theorem served_again (served : kernelRequest sha256 spelling serving post = .ok request) (uuid : String) :
    ∃ again, kernelRequest sha256 spelling { serving with uuid := uuid } post = .ok again := by
  obtain ⟨delivered, id, call, context, spec, prepared, replied, found, -⟩ := kernelRequest_eq_ok.mp served
  exact ⟨_, kernelRequest_eq_ok.mpr ⟨delivered, id, call, context, spec, prepared, replied, found, rfl⟩⟩

theorem stableRequestId_orNone (context : McpRequestContext) (uuid : String) {text : String} (ink : text ≠ "") :
    stableRequestId context uuid (orNone text) = text := by
  simp [stableRequestId, orNone, isSet, ink]

theorem requestId_of_callsInBody {repr : FloatRepr} (called : post.CallsInBody repr.toSpelling)
    (served : kernelRequest sha256 repr.toSpelling serving post = .ok request) :
    ∃ rpcId, mcpRpcId post.payload = .ok rpcId ∧
      (explicitRequestId repr.toSpelling post.fields).utf8ByteSize ≤ maxRuntimeRequestIdBytes ∧
      request.requestId =
        some (carriedRequestId sha256 repr.toSpelling post.fields (post.bodyName repr.toSpelling) rpcId) := by
  obtain ⟨delivered, id, call, context, spec, prepared, replied, found, rfl⟩ := kernelRequest_eq_ok.mp served
  obtain ⟨payload, decoded, uncalled | ⟨-, params, fields, rpcId, passed⟩⟩ := prepareMcpBody_eq_ok prepared
  · exact absurd called (by simpa only [McpPost.CallsInBody, McpPost.payload, decoded] using uncalled.1)
  · have payloads : post.payload = payload := by simp only [McpPost.payload, decoded]
    have parameters : post.params = params := by
      rw [McpPost.params, payloads]
      exact objectOr_of_get passed.held
    have metas : post.fields = fields := by
      rw [McpPost.fields, parameters]
      exact objectMeta_eq_ok passed.described
    obtain ⟨arguments, rfl⟩ := mcpEndpoint_eq_call replied
    have name : post.bodyName repr.toSpelling = bodyName repr.toSpelling params := by
      rw [McpPost.bodyName, parameters]
    rw [payloads, metas, name]
    refine ⟨rpcId, passed.scalar, passed.short, ?_⟩
    have ink : carriedRequestId sha256 repr.toSpelling fields (bodyName repr.toSpelling params) rpcId ≠ "" := by
      intro empty
      exact strip_carriedRequestId repr fields _ rpcId (by rw [empty]; decide)
    have inner : objectOr (objectOr delivered "params") "_meta" = Fields.set fields "operly/requestId"
        (.str (carriedRequestId sha256 repr.toSpelling fields (bodyName repr.toSpelling params) rpcId)) := by
      rw [passed.delivered, objectOr_set, objectOr_set]
    rw [inner]
    simp only [runtimeRequest, toolCall, textOr_set _ ink, stableRequestId_orNone serving.context _ ink]

theorem requestId_of_not_callsInBody (routed : ¬ post.CallsInBody spelling)
    (served : kernelRequest sha256 spelling serving post = .ok request) :
    request.requestId =
      some (stableRequestId serving.context serving.uuid (orNone (post.requestIdText spelling))) := by
  obtain ⟨delivered, id, call, context, spec, prepared, replied, found, rfl⟩ := kernelRequest_eq_ok.mp served
  obtain ⟨payload, decoded, ⟨-, kept⟩ | ⟨called, -⟩⟩ := prepareMcpBody_eq_ok prepared
  · obtain ⟨arguments, rfl⟩ := mcpEndpoint_eq_call replied
    have payloads : delivered = post.payload := by simp only [McpPost.payload, decoded, kept]
    rw [payloads]
    rfl
  · exact absurd (by simpa only [McpPost.CallsInBody, McpPost.payload, decoded] using called) routed

end Serving

section Identity

variable {repr : FloatRepr} {sha256 : Sha256}

theorem carries_of_callsInBody {post : McpPost} (called : post.CallsInBody repr.toSpelling)
    (reaches : post.Reaches repr.toSpelling sha256) :
    ∃ rpcId, mcpRpcId post.payload = .ok rpcId ∧
      (explicitRequestId repr.toSpelling post.fields).utf8ByteSize ≤ maxRuntimeRequestIdBytes ∧
      ∀ id, post.Carries repr.toSpelling sha256 id ↔
        id = carriedRequestId sha256 repr.toSpelling post.fields (post.bodyName repr.toSpelling) rpcId := by
  obtain ⟨serving, request, served⟩ := reaches
  obtain ⟨rpcId, scalar, short, identified⟩ := requestId_of_callsInBody called served
  refine ⟨rpcId, scalar, short, fun id => ⟨?_, ?_⟩⟩
  · intro carries
    exact Option.some.inj ((carries serving request served).symm.trans identified)
  · rintro rfl other again servedAgain
    obtain ⟨_, scalarAgain, -, identifiedAgain⟩ := requestId_of_callsInBody called servedAgain
    rw [Except.ok.inj (scalar.symm.trans scalarAgain)]
    exact identifiedAgain

theorem carries_of_not_callsInBody {post : McpPost} (routed : ¬ post.CallsInBody repr.toSpelling)
    (reaches : post.Reaches repr.toSpelling sha256) (id : String) :
    post.Carries repr.toSpelling sha256 id ↔
      id = post.requestIdText repr.toSpelling ∧ id ≠ "" := by
  obtain ⟨serving, request, served⟩ := reaches
  by_cases blank : post.requestIdText repr.toSpelling = ""
  · have drawn : ∀ uuid, post.Carries repr.toSpelling sha256 id →
        id = "mcp:" ++ serving.context.clientId ++ ":" ++ uuid := by
      intro uuid carries
      obtain ⟨again, servedAgain⟩ := served_again served uuid
      have seen := (carries _ again servedAgain).symm.trans (requestId_of_not_callsInBody routed servedAgain)
      simpa [blank, orNone, stableRequestId, isSet] using seen
    constructor
    · intro carries
      -- two draws of the uuid
      have same := (drawn "1f0e3a5c-3a52-4f2f-9a60-3c3b1d6c7a11" carries).symm.trans
        (drawn "7d1f5a0e-0d0e-4c39-8f0b-6b0a6f6b2c22" carries)
      have lists := congrArg String.toList same
      simp only [String.toList_append] at lists
      exact absurd (List.append_cancel_left lists) (by decide)
    · rintro ⟨same, ink⟩
      exact absurd (same.trans blank) ink
  · constructor
    · intro carries
      have seen := (carries serving request served).symm.trans (requestId_of_not_callsInBody routed served)
      rw [stableRequestId_orNone _ _ blank] at seen
      have same := Option.some.inj seen
      exact ⟨same, same ▸ blank⟩
    · rintro ⟨rfl, -⟩ other again servedAgain
      rw [requestId_of_not_callsInBody routed servedAgain, stableRequestId_orNone _ _ blank]

theorem identified_iff {post : McpPost} (reaches : post.Reaches repr.toSpelling sha256) :
    post.Identified repr.toSpelling sha256 ↔ post.Anchored repr.toSpelling := by
  by_cases called : post.CallsInBody repr.toSpelling
  · obtain ⟨rpcId, -, short, carries⟩ := carries_of_callsInBody called reaches
    exact iff_of_true ⟨_, strip_carriedRequestId repr _ _ rpcId, carriedRequestId_size repr short _ rpcId,
      (carries _).mpr rfl⟩ (.inl called)
  · constructor
    · intro ⟨id, ink, short, carries⟩
      obtain ⟨same, -⟩ := (carries_of_not_callsInBody called reaches id).mp carries
      exact .inr ⟨same ▸ ink, same ▸ short⟩
    · rintro (inBody | ⟨ink, short⟩)
      · exact absurd inBody called
      · refine ⟨_, ink, short, (carries_of_not_callsInBody called reaches _).mpr ⟨rfl, ?_⟩⟩
        intro empty
        exact ink (by rw [empty]; decide)

end Identity

/-! ### Two requests -/

namespace RpcId

def json : RpcId → Json
  | .int value => .int value
  | .float value => .float value
  | .str text => .str text

/-- `0.0` and `-0.0`: equal numbers, spelled differently. -/
def OppositeZeros (first second : RpcId) : Prop :=
  first = .float (.finite 0) ∧ second = .float .negativeZero ∨
    first = .float .negativeZero ∧ second = .float (.finite 0)

end RpcId

def sameType : Json → Json → Bool
  | .null, .null | .bool _, .bool _ | .int _, .int _ | .float _, .float _ | .str _, .str _
  | .arr _, .arr _ | .obj _, .obj _ => true
  | _, _ => false

def SameRpcId (first second : Json) : Prop := sameType first second = true ∧ Json.sameItem first second = true

theorem double_same_iff (first second : Double) :
    ((first = .nan ∧ second = .nan) ∨ first.same second = true) ↔ first = second ∨
      (first = .finite 0 ∧ second = .negativeZero ∨ first = .negativeZero ∧ second = .finite 0) := by
  cases first with
  | finite x => cases second <;> simp [Double.same, Double.unsigned]
  | negativeZero =>
    cases second with
    | finite y => simpa [Double.same, Double.unsigned] using eq_comm
    | _ => simp [Double.same, Double.unsigned]
  | infinity sign => cases second <;> simp [Double.same, Double.unsigned]
  | nan => cases second <;> simp [Double.same, Double.unsigned]

theorem sameRpcId_iff {first second : RpcId} :
    SameRpcId first.json second.json ↔ first = second ∨ first.OppositeZeros second := by
  cases first with
  | int x =>
    cases second <;> simp [SameRpcId, sameType, RpcId.json, RpcId.OppositeZeros, Json.sameItem, Json.same,
      Json.sameNumber, Json.isNan, Double.same, Double.unsigned]
  | float x =>
    cases second with
    | float y =>
      have nan : ∀ value, Json.isNan (.float value) = true ↔ value = .nan := by
        intro value
        cases value <;> simp [Json.isNan]
      have numbers := double_same_iff x y
      simpa [SameRpcId, sameType, RpcId.json, RpcId.OppositeZeros, Json.sameItem, Json.same,
        Json.sameNumber, nan] using numbers
    | _ => simp [SameRpcId, sameType, RpcId.json, RpcId.OppositeZeros]
  | str x =>
    cases second <;> simp [SameRpcId, sameType, RpcId.json, RpcId.OppositeZeros, Json.sameItem, Json.same,
      Json.isNan]

theorem mcpRpcId_eq_ok {post : McpPost} {id : RpcId} (scalar : mcpRpcId post.payload = .ok id) :
    post.rpcId = id.json := by
  unfold mcpRpcId at scalar
  split at scalar <;> cases scalar
  all_goals
    next held => simp [McpPost.rpcId, held, RpcId.json]

theorem json_inj {first second : RpcId} : first.json = second.json ↔ first = second := by
  cases first <;> cases second <;> simp [RpcId.json]

section Pair

variable (repr : FloatRepr) (sha256 : Sha256) (first second : McpPost)

/-- What a retry identity is to two requests: each carries one, and they share it exactly when they
call one tool under one JSON-RPC id. -/
structure RetryLaw : Prop where
  identified : first.Identified repr.toSpelling sha256 ∧ second.Identified repr.toSpelling sha256
  shared : first.Unmarked repr.toSpelling → second.Unmarked repr.toSpelling →
    ((∃ id, first.Carries repr.toSpelling sha256 id ∧ second.Carries repr.toSpelling sha256 id) ↔
      first.toolName repr.toSpelling = second.toolName repr.toSpelling ∧ SameRpcId first.rpcId second.rpcId)

/-- The bodies of two requests say what the headers could say as well. -/
structure SaidInBody : Prop where
  anchored : first.Anchored repr.toSpelling ∧ second.Anchored repr.toSpelling
  /-- Requests with one JSON-RPC id either both name their tool in the body, or both leave it to
  the header and call one tool, or call different tools. -/
  names : first.Unmarked repr.toSpelling → second.Unmarked repr.toSpelling → first.rpcId = second.rpcId →
    (first.toolName repr.toSpelling = second.toolName repr.toSpelling →
      (first.bodyName repr.toSpelling = "" ↔ second.bodyName repr.toSpelling = "")) ∧
    (first.bodyName repr.toSpelling = "" → second.bodyName repr.toSpelling = "" →
      first.toolName repr.toSpelling = second.toolName repr.toSpelling)
  /-- A zero and its opposite are JSON-RPC ids of different tools. -/
  zeros : first.Unmarked repr.toSpelling → second.Unmarked repr.toSpelling →
    SameRpcId first.rpcId second.rpcId → first.rpcId ≠ second.rpcId →
      first.toolName repr.toSpelling ≠ second.toolName repr.toSpelling

variable {repr} {sha256} {first second}

theorem McpPost.Unmarked.callsInBody {post : McpPost} (unmarked : post.Unmarked repr.toSpelling)
    (anchored : post.Anchored repr.toSpelling) : post.CallsInBody repr.toSpelling := by
  rcases anchored with called | ⟨ink, -⟩
  · exact called
  · exact absurd unmarked ink

theorem carries_stable {post : McpPost} (unmarked : post.Unmarked repr.toSpelling)
    (anchored : post.Anchored repr.toSpelling) (reaches : post.Reaches repr.toSpelling sha256) :
    ∃ rpcId : RpcId, post.rpcId = rpcId.json ∧
      post.hashedText repr.toSpelling = rpcId.hashedText repr.toSpelling (post.bodyName repr.toSpelling) ∧
      ∀ id, post.Carries repr.toSpelling sha256 id ↔
        id = rpcId.stable sha256 repr.toSpelling (post.bodyName repr.toSpelling) := by
  obtain ⟨rpcId, scalar, -, carries⟩ := carries_of_callsInBody (unmarked.callsInBody anchored) reaches
  refine ⟨rpcId, mcpRpcId_eq_ok scalar, by simp only [McpPost.hashedText, scalar], fun id => ?_⟩
  have blank : explicitRequestId repr.toSpelling post.fields = "" := unmarked
  rw [carries id, carriedRequestId, if_neg (not_not.mpr blank)]

theorem bodyName_iff_toolName :
    (first.bodyName repr.toSpelling = second.bodyName repr.toSpelling ↔
      first.toolName repr.toSpelling = second.toolName repr.toSpelling) ↔
    (first.toolName repr.toSpelling = second.toolName repr.toSpelling →
      (first.bodyName repr.toSpelling = "" ↔ second.bodyName repr.toSpelling = "")) ∧
    (first.bodyName repr.toSpelling = "" → second.bodyName repr.toSpelling = "" →
      first.toolName repr.toSpelling = second.toolName repr.toSpelling) := by
  by_cases one : first.bodyName repr.toSpelling = "" <;>
    by_cases other : second.bodyName repr.toSpelling = ""
  · simp [one, other]
  · simp [one, other, Ne.symm other]
  · simp [one, other]
  · simp [McpPost.toolName, routed, one, other]

/-- The retry identities of two tool calls are sound exactly when the bodies say all that the
headers could say. -/
theorem retry_identity_iff (reachesFirst : first.Reaches repr.toSpelling sha256)
    (reachesSecond : second.Reaches repr.toSpelling sha256)
    (collisionFree : Set.InjOn sha256.hexdigest
      {first.hashedText repr.toSpelling, second.hashedText repr.toSpelling}) :
    RetryLaw repr sha256 first second ↔ SaidInBody repr first second := by
  have anchored : (first.Identified repr.toSpelling sha256 ∧ second.Identified repr.toSpelling sha256) ↔
      first.Anchored repr.toSpelling ∧ second.Anchored repr.toSpelling :=
    and_congr (identified_iff reachesFirst) (identified_iff reachesSecond)
  -- what the two requests share is decided by the names in their bodies
  have shared : first.Anchored repr.toSpelling ∧ second.Anchored repr.toSpelling →
      first.Unmarked repr.toSpelling → second.Unmarked repr.toSpelling →
        ((∃ id, first.Carries repr.toSpelling sha256 id ∧ second.Carries repr.toSpelling sha256 id) ↔
          first.bodyName repr.toSpelling = second.bodyName repr.toSpelling ∧ first.rpcId = second.rpcId) := by
    intro held unmarkedFirst unmarkedSecond
    obtain ⟨one, oneJson, oneText, carriesFirst⟩ := carries_stable unmarkedFirst held.1 reachesFirst
    obtain ⟨other, otherJson, otherText, carriesSecond⟩ := carries_stable unmarkedSecond held.2 reachesSecond
    rw [oneText, otherText] at collisionFree
    rw [oneJson, otherJson, json_inj, ← RpcId.stable_inj repr sha256
      (fun same => collisionFree (by simp) (by simp) same)]
    simp only [carriesFirst, carriesSecond, exists_eq_left]
  have equal : first.Anchored repr.toSpelling ∧ second.Anchored repr.toSpelling →
      first.Unmarked repr.toSpelling → second.Unmarked repr.toSpelling → first.rpcId = second.rpcId →
        SameRpcId first.rpcId second.rpcId := by
    intro held unmarkedFirst unmarkedSecond same
    obtain ⟨one, oneJson, -, -⟩ := carries_stable unmarkedFirst held.1 reachesFirst
    obtain ⟨other, otherJson, -, -⟩ := carries_stable unmarkedSecond held.2 reachesSecond
    rw [oneJson, otherJson, json_inj] at same
    rw [oneJson, otherJson]
    exact sameRpcId_iff.mpr (.inl same)
  constructor
  · intro law
    have held := anchored.mp law.identified
    refine ⟨held, ?_, ?_⟩
    · intro unmarkedFirst unmarkedSecond same
      have told := (shared held unmarkedFirst unmarkedSecond).symm.trans (law.shared unmarkedFirst unmarkedSecond)
      have alike := equal held unmarkedFirst unmarkedSecond same
      exact bodyName_iff_toolName.mp ⟨fun named => (told.mp ⟨named, same⟩).1, fun named => (told.mpr ⟨named, alike⟩).1⟩
    · intro unmarkedFirst unmarkedSecond alike apart named
      have told := (shared held unmarkedFirst unmarkedSecond).symm.trans (law.shared unmarkedFirst unmarkedSecond)
      exact apart (told.mpr ⟨named, alike⟩).2
  · intro said
    refine ⟨anchored.mpr said.anchored, fun unmarkedFirst unmarkedSecond => ?_⟩
    rw [shared said.anchored unmarkedFirst unmarkedSecond]
    constructor
    · intro ⟨named, same⟩
      have told := bodyName_iff_toolName.mpr (said.names unmarkedFirst unmarkedSecond same)
      exact ⟨told.mp named, equal said.anchored unmarkedFirst unmarkedSecond same⟩
    · intro ⟨named, alike⟩
      by_cases same : first.rpcId = second.rpcId
      · have told := bodyName_iff_toolName.mpr (said.names unmarkedFirst unmarkedSecond same)
        exact ⟨told.mpr named, same⟩
      · exact absurd named (said.zeros unmarkedFirst unmarkedSecond alike same)

end Pair

def sampleDigests : Sha256 where
  hexdigest text :=
    if text = "tool.00\x00int:42" then "61ef9b155aa97cf530de4b0ca8345c04fec2ad55744fa6a3c84d58bc07d7a2e6"
    else if text = "tool.00\x00str:\"42\"" then "c2c566ff5cd7f79a9640ddbfadf8a1c15320b90b5a3e43da0236a2f821c35b20"
    else String.ofList (List.replicate 64 '0')
  size text := by split_ifs <;> decide
  digits text := by split_ifs <;> decide

def numbered (id : Json) : McpPost where
  body := .decoded (.obj [("jsonrpc", .str "2.0"), ("id", id), ("method", .str "tools/call"),
    ("params", .obj [("name", .str "tool.00")])])

def routedCall : McpPost where
  body := .decoded (.obj [("jsonrpc", .str "2.0"), ("id", .int 42),
    ("params", .obj [("name", .str "tool.00")])])
  routedMethod := some "tools/call"

def crowdedServing : Serving := ⟨Unit, crowded, (), crowdedRequest, "1f0e3a5c-3a52-4f2f-9a60-3c3b1d6c7a11"⟩

theorem reaches_of_isOk {post : McpPost} (serving : Serving)
    (served : (kernelRequest sampleDigests fractionRepr.toSpelling serving post).isOk = true) :
    post.Reaches fractionRepr.toSpelling sampleDigests := by
  cases reached : kernelRequest sampleDigests fractionRepr.toSpelling serving post with
  | ok request => exact ⟨serving, request, reached⟩
  | error refusal => simp [reached, Except.isOk, Except.toBool] at served

/-- The id `42` and the id `"42"` of one tool are two retry identities. -/
theorem retry_identity_numbered :
    RetryLaw fractionRepr sampleDigests (numbered (.int 42)) (numbered (.str "42")) := by
  have collisionFree : Set.InjOn sampleDigests.hexdigest
      {(numbered (.int 42)).hashedText fractionRepr.toSpelling,
        (numbered (.str "42")).hashedText fractionRepr.toSpelling} := by
    have apart : sampleDigests.hexdigest ((numbered (.int 42)).hashedText fractionRepr.toSpelling) ≠
        sampleDigests.hexdigest ((numbered (.str "42")).hashedText fractionRepr.toSpelling) := by
      decide
    rintro x (rfl | rfl) y (rfl | rfl) same
    · rfl
    · exact absurd same apart
    · exact absurd same.symm apart
    · rfl
  refine (retry_identity_iff (reaches_of_isOk crowdedServing (by decide))
    (reaches_of_isOk crowdedServing (by decide)) collisionFree).mpr ⟨⟨.inl ?_, .inl ?_⟩, ?_, ?_⟩
  · unfold McpPost.CallsInBody
    decide
  · unfold McpPost.CallsInBody
    decide
  · intro _ _ same
    exact absurd same (by decide)
  · intro _ _ alike
    exact absurd alike.1 (by decide)

/-- A call whose method stands in a header only reaches the Kernel under a request id that is drawn
anew for each retry. -/
theorem routed_retries_unidentified : routedCall.Reaches fractionRepr.toSpelling sampleDigests ∧
    ¬ RetryLaw fractionRepr sampleDigests routedCall routedCall := by
  have reaches : routedCall.Reaches fractionRepr.toSpelling sampleDigests :=
    reaches_of_isOk crowdedServing (by decide)
  refine ⟨reaches, fun law => ?_⟩
  rcases (identified_iff reaches).mp law.identified.1 with called | ⟨ink, -⟩
  · unfold McpPost.CallsInBody at called
    exact absurd called (by decide)
  · exact ink (by decide)

end Operly.Mcp
