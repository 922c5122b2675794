import Operly.Python.Exceptions
import Operly.Python.JsonText

/-! What the request middleware makes of the body of an MCP request, and the request id that it
derives from the JSON-RPC id. -/

namespace Operly.Mcp
open Python

def maxRuntimeRequestIdBytes : Nat := 160

structure McpRequestSafetyError where
  code : String
  message : String
  statusCode : Nat := 400
  deriving DecidableEq

/-- What `json.loads` with `_unique_object` makes of a body. -/
inductive McpBody where
  | empty
  | duplicateKey
  | undecodable
  | decoded (payload : Json)

inductive RpcId where
  | int (value : Int)
  | float (value : Double)
  | str (text : String)
  deriving DecidableEq

/-- `hashlib.sha256(text.encode("utf-8")).hexdigest()` -/
structure Sha256 where
  hexdigest : String → String
  size : ∀ text, (hexdigest text).utf8ByteSize = 64
  digits : ∀ text, ∀ c ∈ (hexdigest text).toList, c ∈ "0123456789abcdef".toList

/-! ### The stable id -/

namespace RpcId

def typeName : RpcId → String
  | .int _ => "int"
  | .float _ => "float"
  | .str _ => "str"

/-- `str(rpc_id)` of a number. -/
def digits? (spelling : Spelling) : RpcId → Option String
  | .int value => some (toString value)
  | .float value => some (spelling.float value)
  | .str _ => none

def nonFinite? : Double → Option String
  | .infinity negative => some (if negative then "-Infinity" else "Infinity")
  | .nan => some "NaN"
  | .finite _ | .negativeZero => none

/-- `json.dumps(rpc_id, separators=(",", ":"), ensure_ascii=False)` -/
def dumps (spelling : Spelling) : RpcId → String
  | .int value => toString value
  | .float value => (nonFinite? value).getD (spelling.float value)
  | .str text => plainQuoted text

def typedIdentity (spelling : Spelling) (id : RpcId) : String := id.typeName ++ ":" ++ id.dumps spelling

def hashedText (spelling : Spelling) (name : String) (id : RpcId) : String :=
  name ++ "\x00" ++ id.typedIdentity spelling

def readable (name number : String) : String := "mcp-rpc:" ++ name ++ ":" ++ number

def hashed (sha256 : Sha256) (spelling : Spelling) (name : String) (id : RpcId) : String :=
  "mcp-rpc:" ++ sha256.hexdigest (id.hashedText spelling name)

def stable (sha256 : Sha256) (spelling : Spelling) (name : String) (id : RpcId) : String :=
  match id.digits? spelling with
  | some number =>
      if (readable name number).utf8ByteSize ≤ maxRuntimeRequestIdBytes then readable name number
      else id.hashed sha256 spelling name
  | none => id.hashed sha256 spelling name

variable (repr : FloatRepr) {number text other name : String} {first second : RpcId}

theorem mem_digits (id : RpcId) (written : id.digits? repr.toSpelling = some number) {c : Char}
    (member : c ∈ number.toList) : c ≠ ':' ∧ c ≠ '\x00' := by
  cases id with
  | int value =>
    cases written
    rcases mem_toString_int member with rfl | digit
    · decide
    · constructor <;> intro same <;> exact absurd (same ▸ digit) (by decide)
  | float value =>
    cases written
    have listed : ∀ c ∈ "+-.0123456789aefin".toList, c ≠ ':' ∧ c ≠ '\x00' := by decide
    exact listed c (repr.characters value c member)
  | str text => cases written

theorem digits_inj (one : first.digits? repr.toSpelling = some number)
    (other : second.digits? repr.toSpelling = some number) : first = second := by
  have same := one.trans other.symm
  cases first with
  | int x =>
    cases second with
    | int y => rw [toString_int_inj (Option.some.inj same)]
    | float y => exact absurd (Option.some.inj same).symm (repr.notInteger y x)
    | str y => cases same
  | float x =>
    cases second with
    | int y => exact absurd (Option.some.inj same) (repr.notInteger x y)
    | float y => rw [repr.apart (Option.some.inj same)]
    | str y => cases same
  | str x => cases one

theorem nonFinite?_inj {first second : Double} (one : nonFinite? first = some text)
    (other : nonFinite? second = some text) : first = second := by
  cases first with
  | finite value => cases one
  | negativeZero => cases one
  | infinity negative =>
    cases one
    cases second with
    | finite value => cases other
    | negativeZero => cases other
    | infinity sign => cases negative <;> cases sign <;> simp_all [nonFinite?]
    | nan => cases negative <;> simp [nonFinite?] at other
  | nan =>
    cases one
    cases second with
    | finite value => cases other
    | negativeZero => cases other
    | infinity sign => cases sign <;> simp [nonFinite?] at other
    | nan => rfl

theorem float_ne_nonFinite {value other : Double} (written : nonFinite? other = some text) :
    repr.float value ≠ text := by
  have lettered : ∀ c ∈ text.toList, c ∉ "+-.0123456789aefin".toList → repr.float value ≠ text := by
    intro c held foreign same
    exact foreign (repr.characters value c (same ▸ held))
  cases other with
  | finite value => cases written
  | negativeZero => cases written
  | infinity negative =>
    cases written
    cases negative <;> exact lettered 'y' (by decide) (by decide)
  | nan =>
    cases written
    exact lettered 'N' (by decide) (by decide)

theorem dumps_float_inj {first second : Double}
    (same : dumps repr.toSpelling (.float first) = dumps repr.toSpelling (.float second)) : first = second := by
  cases one : nonFinite? first with
  | none =>
    cases other : nonFinite? second with
    | none => exact repr.apart (by simpa [dumps, one, other] using same)
    | some text => exact absurd (by simpa [dumps, one, other] using same) (float_ne_nonFinite repr other)
  | some text =>
    cases other : nonFinite? second with
    | none => exact absurd (by simpa [dumps, one, other] using same.symm) (float_ne_nonFinite repr one)
    | some written =>
      have texts : text = written := by simpa [dumps, one, other] using same
      exact nonFinite?_inj one (texts ▸ other)

theorem typedIdentity_inj (same : first.typedIdentity repr.toSpelling = second.typedIdentity repr.toSpelling) :
    first = second := by
  have tagged : first.typeName = second.typeName ∧
      first.dumps repr.toSpelling = second.dumps repr.toSpelling := by
    have lists := congrArg String.toList same
    cases first <;> cases second <;> simp [typedIdentity, typeName] at lists ⊢ <;>
      exact String.toList_inj.mp lists
  obtain ⟨named, written⟩ := tagged
  cases first with
  | int x =>
    cases second with
    | int y => rw [toString_int_inj written]
    | float y => simp [typeName] at named
    | str y => simp [typeName] at named
  | float x =>
    cases second with
    | int y => simp [typeName] at named
    | float y => rw [dumps_float_inj repr written]
    | str y => simp [typeName] at named
  | str x =>
    cases second with
    | int y => simp [typeName] at named
    | float y => simp [typeName] at named
    | str y => rw [plainQuoted_inj written]

theorem notMem_dumps (id : RpcId) : '\x00' ∉ (id.dumps repr.toSpelling).toList := by
  intro member
  cases id with
  | int value => exact (mem_digits repr (.int value) rfl member).2 rfl
  | float value =>
    cases written : nonFinite? value with
    | none =>
      have number : '\x00' ∈ (repr.float value).toList := by simpa [dumps, written] using member
      exact (mem_digits repr (.float value) rfl number).2 rfl
    | some text =>
      have held : '\x00' ∈ text.toList := by simpa [dumps, written] using member
      cases value with
      | finite value => cases written
      | negativeZero => cases written
      | infinity negative => cases negative <;> cases written <;> revert held <;> decide
      | nan => cases written; revert held; decide
  | str text => exact absurd (mem_plainQuoted member) (by decide)

theorem notMem_typedIdentity (id : RpcId) : '\x00' ∉ (id.typedIdentity repr.toSpelling).toList := by
  have tag : '\x00' ∉ (id.typeName ++ ":").toList := by cases id <;> simp [typeName]
  simp only [typedIdentity, String.toList_append, List.mem_append, not_or] at tag ⊢
  exact ⟨tag, notMem_dumps repr id⟩

theorem hashedText_inj (same : first.hashedText repr.toSpelling name = second.hashedText repr.toSpelling other) :
    name = other ∧ first = second := by
  obtain ⟨named, typed⟩ := (join_eq_join_of_notMem (c := '\x00') (by rfl)
    (notMem_typedIdentity repr first) (notMem_typedIdentity repr second)).mp same
  exact ⟨named, typedIdentity_inj repr typed⟩

variable (sha256 : Sha256)

theorem readable_inj {digits : String} (one : first.digits? repr.toSpelling = some number)
    (two : second.digits? repr.toSpelling = some digits) (same : readable name number = readable other digits) :
    name = other ∧ first = second := by
  have joined := (join_eq_join_of_notMem (c := ':') (by rfl)
    (fun member => (mem_digits repr first one member).1 rfl)
    (fun member => (mem_digits repr second two member).1 rfl)).mp same
  have named : name = other := by
    have lists := congrArg String.toList joined.1
    rw [String.toList_append, String.toList_append] at lists
    exact String.toList_inj.mp (List.append_cancel_left lists)
  exact ⟨named, digits_inj repr one (joined.2 ▸ two)⟩

theorem readable_ne_hashed (name number other : String) (id : RpcId) :
    readable name number ≠ id.hashed sha256 repr.toSpelling other := by
  intro same
  have lists := congrArg String.toList same
  simp only [readable, hashed, String.toList_append, List.append_assoc] at lists
  have digest := List.append_cancel_left lists
  have colon : ':' ∈ (sha256.hexdigest (id.hashedText repr.toSpelling other)).toList := by
    rw [← digest]
    simp
  exact absurd (sha256.digits _ ':' colon) (by decide)

theorem hashed_inj (collisionFree : sha256.hexdigest (first.hashedText repr.toSpelling name) =
      sha256.hexdigest (second.hashedText repr.toSpelling other) →
        first.hashedText repr.toSpelling name = second.hashedText repr.toSpelling other)
    (same : first.hashed sha256 repr.toSpelling name = second.hashed sha256 repr.toSpelling other) :
    name = other ∧ first = second := by
  have lists := congrArg String.toList same
  simp only [hashed, String.toList_append] at lists
  exact hashedText_inj repr (collisionFree (String.toList_inj.mp (List.append_cancel_left lists)))

theorem stable_cases (name : String) (id : RpcId) :
    (∃ number, id.digits? repr.toSpelling = some number ∧
      (readable name number).utf8ByteSize ≤ maxRuntimeRequestIdBytes ∧
        id.stable sha256 repr.toSpelling name = readable name number) ∨
    id.stable sha256 repr.toSpelling name = id.hashed sha256 repr.toSpelling name := by
  cases written : id.digits? repr.toSpelling with
  | none => exact .inr (by simp only [stable, written])
  | some number =>
    by_cases short : (readable name number).utf8ByteSize ≤ maxRuntimeRequestIdBytes
    · exact .inl ⟨number, rfl, short, by simp only [stable, written, if_pos short]⟩
    · exact .inr (by simp only [stable, written, if_neg short])

theorem stable_inj (collisionFree : sha256.hexdigest (first.hashedText repr.toSpelling name) =
      sha256.hexdigest (second.hashedText repr.toSpelling other) →
        first.hashedText repr.toSpelling name = second.hashedText repr.toSpelling other) :
    first.stable sha256 repr.toSpelling name = second.stable sha256 repr.toSpelling other ↔
      name = other ∧ first = second := by
  constructor
  · intro same
    rcases stable_cases repr sha256 name first with ⟨number, one, -, readFirst⟩ | hashFirst <;>
      rcases stable_cases repr sha256 other second with ⟨digits, two, -, readSecond⟩ | hashSecond
    · exact readable_inj repr one two (readFirst ▸ readSecond ▸ same)
    · exact absurd (readFirst ▸ hashSecond ▸ same) (readable_ne_hashed repr sha256 name number other second)
    · exact absurd (hashFirst ▸ readSecond ▸ same).symm (readable_ne_hashed repr sha256 other digits name first)
    · exact hashed_inj repr sha256 collisionFree (hashFirst ▸ hashSecond ▸ same)
  · intro ⟨named, same⟩
    rw [named, same]

theorem stable_size (name : String) (id : RpcId) :
    (id.stable sha256 repr.toSpelling name).utf8ByteSize ≤ maxRuntimeRequestIdBytes := by
  rcases stable_cases repr sha256 name id with ⟨number, -, short, read⟩ | hash
  · rw [read]
    exact short
  · have start : "mcp-rpc:".utf8ByteSize = 8 := by decide
    rw [hash, hashed, String.utf8ByteSize_append, sha256.size, start]
    decide

theorem strip_ne_empty_of_mem {c : Char} (member : c ∈ text.toList) (ink : isSpace c = false) : strip text ≠ "" := by
  intro blank
  have emptied : (text.toList.dropWhile isSpace).rdropWhile isSpace = [] := by
    simpa [strip, stripChars_eq] using congrArg String.toList blank
  rw [← List.takeWhile_append_dropWhile (p := isSpace) (l := text.toList), List.mem_append] at member
  rcases member with front | rest
  · exact absurd (List.mem_takeWhile_imp front) (by simp [ink])
  · exact absurd (List.rdropWhile_eq_nil_iff.mp emptied c rest) (by simp [ink])

theorem strip_stable (name : String) (id : RpcId) : strip (id.stable sha256 repr.toSpelling name) ≠ "" := by
  have started : 'm' ∈ (id.stable sha256 repr.toSpelling name).toList := by
    rcases stable_cases repr sha256 name id with ⟨number, -, -, read⟩ | hash
    · simp [read, readable]
    · simp [hash, hashed]
  exact strip_ne_empty_of_mem started (by decide)

end RpcId

/-! ### The body -/

section Body

variable (sha256 : Sha256) (spelling : Spelling)

/-- `str(fields.get(key) or "")` -/
def textOr (fields : Fields) (key : String) : String := (Fields.getOr fields key (.str "")).toStr spelling

def bodyMethod (payload : Fields) : String := strip (textOr spelling payload "method")

def bodyName (params : Fields) : String := strip (textOr spelling params "name")

def mcpRpcId (payload : Fields) : Except McpRequestSafetyError RpcId :=
  match Fields.get payload "id" with
  | some (.int value) => .ok (.int value)
  | some (.float value) => .ok (.float value)
  | some (.str text) => .ok (.str text)
  | _ => .error ⟨"MCP_REQUEST_ID_REQUIRED", "MCP tools/call requires a scalar JSON-RPC request id", 400⟩

def objectParams (payload : Fields) : Except McpRequestSafetyError Fields :=
  match Fields.get payload "params" with
  | some (.obj params) => .ok params
  | _ => .error ⟨"MCP_PARAMS_INVALID", "MCP tools/call params must be an object", 400⟩

def stableMcpRequestId (payload : Fields) : Except McpRequestSafetyError (Option String) :=
  if bodyMethod spelling payload ≠ "tools/call" then .ok none
  else do
    let rpcId ← mcpRpcId payload
    let params ← objectParams payload
    return some (rpcId.stable sha256 spelling (bodyName spelling params))

/-- `params["_meta"]`, which a tool call may leave out. -/
def objectMeta (params : Fields) : Except McpRequestSafetyError Fields :=
  match Fields.get params "_meta" with
  | none | some .null => .ok []
  | some (.obj fields) => .ok fields
  | _ => .error ⟨"MCP_META_INVALID", "MCP tools/call _meta must be an object", 400⟩

def explicitRequestId (fields : Fields) : String := strip (textOr spelling fields "operly/requestId")

def checkRequestIdLength (requestId : String) : Except McpRequestSafetyError Unit :=
  if maxRuntimeRequestIdBytes < requestId.utf8ByteSize then
    .error ⟨"MCP_REQUEST_ID_TOO_LONG", "operly/requestId exceeds the durable request-id limit", 400⟩
  else .ok ()

def deliveredRequestId (fields : Fields) (stableId : Option String) : Except McpRequestSafetyError Json :=
  let explicit := explicitRequestId spelling fields
  if explicit ≠ "" then do
    checkRequestIdLength explicit
    return .str explicit
  else .ok (stableId.elim .null .str)

def prepareToolCall (payload : Fields) : Except McpRequestSafetyError Fields := do
  let stableId ← stableMcpRequestId sha256 spelling payload
  let params ← objectParams payload
  let fields ← objectMeta params
  let requestId ← deliveredRequestId spelling fields stableId
  return Fields.set payload "params"
    (.obj (Fields.set params "_meta" (.obj (Fields.set fields "operly/requestId" requestId))))

/-- `_prepare_mcp_body`: what the endpoint reads from the delivered body. -/
def prepareMcpBody : McpBody → Except McpRequestSafetyError Fields
  | .empty | .undecodable => .error ⟨"INVALID_JSON", "Send a valid MCP JSON request", 400⟩
  | .duplicateKey =>
      .error ⟨"DUPLICATE_JSON_FIELD", "Each MCP JSON field may be provided only once", 400⟩
  | .decoded (.obj payload) =>
      if bodyMethod spelling payload ≠ "tools/call" then .ok payload
      else prepareToolCall sha256 spelling payload
  | .decoded _ => .error ⟨"MCP_REQUEST_INVALID", "MCP requests must be a JSON object", 400⟩

def carriedRequestId (fields : Fields) (name : String) (rpcId : RpcId) : String :=
  if explicitRequestId spelling fields ≠ "" then explicitRequestId spelling fields
  else rpcId.stable sha256 spelling name

structure Prepared (payload delivered params fields : Fields) (rpcId : RpcId) : Prop where
  scalar : mcpRpcId payload = .ok rpcId
  held : Fields.get payload "params" = some (.obj params)
  described : objectMeta params = .ok fields
  short : (explicitRequestId spelling fields).utf8ByteSize ≤ maxRuntimeRequestIdBytes
  delivered : delivered = Fields.set payload "params" (.obj (Fields.set params "_meta"
    (.obj (Fields.set fields "operly/requestId"
      (.str (carriedRequestId sha256 spelling fields (bodyName spelling params) rpcId))))))

variable {sha256} {spelling} {payload delivered : Fields}

theorem objectParams_eq_ok {params : Fields} (read : objectParams payload = .ok params) :
    Fields.get payload "params" = some (.obj params) := by
  unfold objectParams at read
  split at read
  · next held =>
    cases read
    exact held
  · cases read

theorem deliveredRequestId_eq_ok {fields : Fields} {stableId : String} {requestId : Json}
    (read : deliveredRequestId spelling fields (some stableId) = .ok requestId) :
    (explicitRequestId spelling fields).utf8ByteSize ≤ maxRuntimeRequestIdBytes ∧
      requestId = .str (if explicitRequestId spelling fields ≠ "" then explicitRequestId spelling fields
        else stableId) := by
  unfold deliveredRequestId at read
  by_cases blank : explicitRequestId spelling fields = ""
  · simp only [blank, ne_eq, not_true_eq_false, if_false, Except.ok.injEq] at read
    rw [← read]
    simp [blank]
  · simp only [ne_eq, blank, not_false_eq_true, if_true] at read
    obtain ⟨_, checked, written⟩ := bind_eq_ok.mp read
    cases written
    refine ⟨?_, by simp [blank]⟩
    unfold checkRequestIdLength at checked
    split at checked
    · cases checked
    · next short => exact not_lt.mp short

theorem prepareToolCall_eq_ok (called : bodyMethod spelling payload = "tools/call")
    (passed : prepareToolCall sha256 spelling payload = .ok delivered) :
    ∃ params fields rpcId, Prepared sha256 spelling payload delivered params fields rpcId := by
  obtain ⟨stableId, stable, reading⟩ := bind_eq_ok.mp passed
  obtain ⟨params, held, describing⟩ := bind_eq_ok.mp reading
  obtain ⟨fields, described, identifying⟩ := bind_eq_ok.mp describing
  obtain ⟨requestId, identified, delivering⟩ := bind_eq_ok.mp identifying
  rw [stableMcpRequestId, if_neg (not_not.mpr called)] at stable
  obtain ⟨rpcId, scalar, named⟩ := bind_eq_ok.mp stable
  rw [held] at named
  rw [← pure_eq_ok.mp named] at identified
  obtain ⟨short, written⟩ := deliveredRequestId_eq_ok identified
  rw [written] at delivering
  exact ⟨params, fields, rpcId, scalar, objectParams_eq_ok held, described, short,
    (pure_eq_ok.mp delivering).symm⟩

theorem prepareMcpBody_eq_ok {body : McpBody} (passed : prepareMcpBody sha256 spelling body = .ok delivered) :
    ∃ payload, body = .decoded (.obj payload) ∧
      (bodyMethod spelling payload ≠ "tools/call" ∧ delivered = payload ∨
        bodyMethod spelling payload = "tools/call" ∧
          ∃ params fields rpcId, Prepared sha256 spelling payload delivered params fields rpcId) := by
  unfold prepareMcpBody at passed
  split at passed
  · cases passed
  · cases passed
  · cases passed
  · next payload =>
    refine ⟨payload, rfl, ?_⟩
    by_cases called : bodyMethod spelling payload = "tools/call"
    · rw [if_neg (not_not.mpr called)] at passed
      exact .inr ⟨called, prepareToolCall_eq_ok called passed⟩
    · rw [if_pos called] at passed
      exact .inl ⟨called, (Except.ok.inj passed).symm⟩
  · cases passed

theorem strip_carriedRequestId (repr : FloatRepr) (fields : Fields) (name : String) (rpcId : RpcId) :
    strip (carriedRequestId sha256 repr.toSpelling fields name rpcId) ≠ "" := by
  unfold carriedRequestId
  split
  · next explicit =>
    have stripped : strip (explicitRequestId repr.toSpelling fields) = explicitRequestId repr.toSpelling fields :=
      strip_strip _
    rw [stripped]
    exact explicit
  · exact RpcId.strip_stable repr sha256 name rpcId

theorem carriedRequestId_size (repr : FloatRepr) {fields : Fields}
    (short : (explicitRequestId repr.toSpelling fields).utf8ByteSize ≤ maxRuntimeRequestIdBytes) (name : String)
    (rpcId : RpcId) :
    (carriedRequestId sha256 repr.toSpelling fields name rpcId).utf8ByteSize ≤ maxRuntimeRequestIdBytes := by
  unfold carriedRequestId
  split
  · exact short
  · exact RpcId.stable_size repr sha256 name rpcId

end Body

end Operly.Mcp
