import Operly.Mcp.RequestSafety
import Operly.Python.JsonEncoder

/-! The bytes of an MCP request on their way through the request middleware: every exception that reading and
writing them may raise, and what the delivered bytes mean. -/

namespace Operly.Mcp.Body
open Python JsonModule

/-- What the middleware runs on: the spelling of floats and containers, and the containers that `json` enters. -/
structure Interpreter where
  floats : FloatText
  container : Value → String
  depth : Nat
  deep : 3 ≤ depth
  sha256 : Sha256

/-- How `_prepare_mcp_body` may fail. -/
inductive PreparationError where
  | safety (error : McpRequestSafetyError)
  /-- `ValueError`: an integer with too many digits -/
  | digits
  | recursion
  /-- `UnicodeEncodeError` -/
  | unicode

inductive SentId where
  | int (value : Int)
  | float (value : Double)
  | str (text : PyText)

namespace SentId

def value : SentId → Value
  | .int value => .int value
  | .float value => .float value
  | .str text => .str text

/-- `type(rpc_id).__name__` -/
def typeName : SentId → String
  | .int _ => "int"
  | .float _ => "float"
  | .str _ => "str"

/-- `str(rpc_id)` of a number. -/
def digits? (floats : FloatText) : SentId → Option String
  | .int value => some (toString value)
  | .float value => some (floats.repr value)
  | .str _ => none

end SentId

def insertUnique (result : Entries) (entry : PyText × Value) : Except LoadError Entries :=
  if (result.get entry.1).isSome then .error .duplicate else .ok (result ++ [entry])

def uniqueObject (pairs : Entries) : Except LoadError Entries := pairs.foldlM insertUnique []

/-- `text.encode("utf-8")` -/
def encodeUtf8 (text : PyText) : Except PreparationError (List UInt8) :=
  match text.encode with
  | some bytes => .ok bytes
  | none => .error .unicode

def truthy : Value → Bool
  | .null => false
  | .bool value => value
  | .int value => value != 0
  | .float (.finite value) => value != 0
  | .float .negativeZero => false
  | .float _ => true
  | .str text => !text.isEmpty
  | .arr items => !items.isEmpty
  | .obj entries => !entries.isEmpty

section Preparation

variable (python : Interpreter)

/-- `str(value)` -/
def shown : Value → PyText
  | .null => PyText.ofString "None"
  | .bool value => PyText.ofString (if value then "True" else "False")
  | .int value => PyText.ofString (toString value)
  | .float value => PyText.ofString (python.floats.repr value)
  | .str text => text
  | .arr items => PyText.ofString (python.container (.arr items))
  | .obj entries => PyText.ofString (python.container (.obj entries))

/-- `str(entries.get(key) or "").strip()` -/
def textOf (entries : Entries) (key : String) : PyText :=
  match entries.get (PyText.ofString key) with
  | some value => if truthy value then (shown python value).strip else []
  | none => []

def refusal (code message : String) : PreparationError := .safety ⟨code, message, 400⟩

def sentRpcId (payload : Entries) : Except PreparationError SentId :=
  match payload.get (PyText.ofString "id") with
  | some (.int value) => .ok (.int value)
  | some (.float value) => .ok (.float value)
  | some (.str text) => .ok (.str text)
  | _ => .error (refusal "MCP_REQUEST_ID_REQUIRED" "MCP tools/call requires a scalar JSON-RPC request id")

def sentParams (payload : Entries) : Except PreparationError Entries :=
  match payload.get (PyText.ofString "params") with
  | some (.obj params) => .ok params
  | _ => .error (refusal "MCP_PARAMS_INVALID" "MCP tools/call params must be an object")

def identityText (name : PyText) (id : SentId) : PyText :=
  name ++ .char '\x00' :: (PyText.ofString (id.typeName ++ ":") ++ dumps python.floats id.value)

def hashedRequestId (name : PyText) (id : SentId) : Except PreparationError PyText :=
  match (identityText python name id).plain? with
  | some chars => .ok (PyText.ofString ("mcp-rpc:" ++ python.sha256.hexdigest (String.ofList chars)))
  | none => .error .unicode

def readableRequestId (name : PyText) (number : String) : PyText :=
  PyText.ofString "mcp-rpc:" ++ name ++ .char ':' :: PyText.ofString number

def stableRequestId (name : PyText) (id : SentId) : Except PreparationError PyText :=
  match id.digits? python.floats with
  | some number => do
      let bytes ← encodeUtf8 (readableRequestId name number)
      if bytes.length ≤ maxRuntimeRequestIdBytes then .ok (readableRequestId name number)
      else hashedRequestId python name id
  | none => hashedRequestId python name id

/-- `params["_meta"]`, which a call may leave out or set to null. -/
def sentMeta (params : Entries) : Except PreparationError Entries :=
  match params.get (PyText.ofString "_meta") with
  | none | some .null => .ok []
  | some (.obj entries) => .ok entries
  | _ => .error (refusal "MCP_META_INVALID" "MCP tools/call _meta must be an object")

def chosenRequestId (entries : Entries) (stable : PyText) : Except PreparationError PyText :=
  let explicit := textOf python entries "operly/requestId"
  if explicit = [] then .ok stable
  else do
    let bytes ← encodeUtf8 explicit
    if maxRuntimeRequestIdBytes < bytes.length then
      .error (refusal "MCP_REQUEST_ID_TOO_LONG" "operly/requestId exceeds the durable request-id limit")
    else .ok explicit

def withRequestId (payload params entries : Entries) (requestId : PyText) : Entries :=
  payload.set (PyText.ofString "params") (.obj (params.set (PyText.ofString "_meta")
    (.obj (entries.set (PyText.ofString "operly/requestId") (.str requestId)))))

def ofLoadError : LoadError → PreparationError
  | .duplicate => refusal "DUPLICATE_JSON_FIELD" "Each MCP JSON field may be provided only once"
  | .invalid => refusal "INVALID_JSON" "Send a valid MCP JSON request"
  | .digits => .digits
  | .recursion => .recursion

/-- `json.dumps(payload, separators=(",", ":"), ensure_ascii=False).encode("utf-8")` -/
def encodePayload (payload : Entries) : Except PreparationError (List UInt8) := do
  (checkDumps python.depth (.obj payload)).mapError ofLoadError
  encodeUtf8 (dumps python.floats (.obj payload))

def methodOf (payload : Entries) : PyText := textOf python payload "method"

def callsTool (payload : Entries) : Bool := methodOf python payload = PyText.ofString "tools/call"

/-- `_prepare_mcp_body` of a tool call that was decoded. -/
def prepareSentCall (payload : Entries) : Except PreparationError (List UInt8) := do
  let id ← sentRpcId payload
  let params ← sentParams payload
  let stable ← stableRequestId python (textOf python params "name") id
  let entries ← sentMeta params
  let requestId ← chosenRequestId python entries stable
  encodePayload python (withRequestId payload params entries requestId)

def prepareBody (raw : List UInt8) : Except PreparationError (List UInt8) :=
  if raw = [] then .error (refusal "INVALID_JSON" "Send a valid MCP JSON request")
  else
    match loads uniqueObject python.floats python.depth raw with
    | .error error => .error (ofLoadError error)
    | .ok (.obj payload) => if callsTool python payload then prepareSentCall python payload else .ok raw
    | .ok _ => .error (refusal "MCP_REQUEST_INVALID" "MCP requests must be a JSON object")

/-- What the middleware does with an MCP body: it catches no other exception than its own. -/
inductive Passage where
  | delivered (body : List UInt8)
  | refused (status : Nat) (code message : String)
  | serverError

def Passage.isServerError : Passage → Bool
  | .serverError => true
  | .delivered _ | .refused .. => false

def passage (raw : List UInt8) : Passage :=
  match prepareBody python raw with
  | .ok body => .delivered body
  | .error (.safety error) => .refused error.statusCode error.code error.message
  | .error _ => .serverError

theorem foldlM_unique {pairs entries result : Entries} (distinct : (result.map (·.1)).Nodup) :
    pairs.foldlM insertUnique result = .ok entries ↔
      entries = result ++ pairs ∧ ((result ++ pairs).map (·.1)).Nodup := by
  induction pairs generalizing result with
  | nil =>
    rw [List.foldlM_nil, List.append_nil]
    exact ⟨fun same => ⟨(Except.ok.inj same).symm, distinct⟩, fun both => by rw [both.1]; rfl⟩
  | cons entry rest ih =>
    rw [List.foldlM_cons, insertUnique]
    cases held : result.get entry.1 with
    | some value =>
      have present : entry.1 ∈ result.map (·.1) := by
        by_contra absent
        rw [Entries.get_eq_none.mpr absent] at held
        cases held
      apply iff_of_false
      · intro same
        cases same
      · intro both
        rw [List.map_append, List.map_cons, List.nodup_append] at both
        exact both.2.2.2 entry.1 present entry.1 List.mem_cons_self rfl
    | none =>
      have absent := Entries.get_eq_none.mp held
      have longer : ((result ++ [entry]).map (·.1)).Nodup := by
        rw [← Entries.set_of_notMem entry.2 absent]
        exact Entries.nodup_set distinct entry.1 entry.2
      have followed := ih longer
      rw [List.append_assoc, List.singleton_append] at followed
      exact followed

theorem uniqueObject_eq_ok {pairs entries : Entries} :
    uniqueObject pairs = .ok entries ↔ entries = pairs ∧ (pairs.map (·.1)).Nodup := by
  have folded := @foldlM_unique pairs entries [] List.nodup_nil
  rwa [List.nil_append] at folded

variable {python}

theorem loads_unique {raw : List UInt8} {value : Value}
    (loaded : loads uniqueObject python.floats python.depth raw = .ok value) :
    WellFormed python.floats python.depth value ∧ loads dictionary python.floats python.depth raw = .ok value ∧
      loads .ok python.floats python.depth raw = .ok value := by
  refine ⟨loads_wellFormed uniqueObject_eq_ok.mp loaded, loads_mono ?_ loaded, loads_mono ?_ loaded⟩
  · intro pairs entries unique
    obtain ⟨same, distinct⟩ := uniqueObject_eq_ok.mp unique
    rw [same]
    exact dictionary_of_nodup distinct
  · intro pairs entries unique
    rw [(uniqueObject_eq_ok.mp unique).1]

theorem encodeUtf8_of_plain {text : PyText} (plain : text.Plain) :
    ∃ bytes, text.encode = some bytes ∧ encodeUtf8 text = .ok bytes := by
  obtain ⟨bytes, encoded⟩ := PyText.encode_of_plain plain
  exact ⟨bytes, encoded, by rw [encodeUtf8, encoded]⟩

theorem encodeUtf8_of_not_plain {text : PyText} (wild : ¬ text.Plain) : encodeUtf8 text = .error .unicode := by
  rw [encodeUtf8, PyText.encode_eq_none.mpr wild]

theorem plain_readable (name : PyText) (number : String) : (readableRequestId name number).Plain ↔ name.Plain := by
  rw [readableRequestId, PyText.plain_append, PyText.plain_append, PyText.plain_char]
  simp [PyText.plain_ofString]

variable (python) in
theorem plain_identity (name : PyText) (id : SentId) :
    (identityText python name id).Plain ↔ name.Plain ∧ PlainValue id.value := by
  have written : (dumps python.floats id.value).Plain ↔ PlainValue id.value := by
    cases id with
    | int value => exact iff_of_true (PyText.plain_ofString _) (.int value)
    | float value => exact iff_of_true (PyText.plain_ofString _) (.float value)
    | str text => rw [SentId.value, dumps, plain_quoted, plain_str_iff]
  rw [identityText, PyText.plain_append, PyText.plain_char, PyText.plain_append, written]
  simp [PyText.plain_ofString]

variable (python) in
theorem hashedRequestId_of_plain {name : PyText} {id : SentId} (named : name.Plain) (sent : PlainValue id.value) :
    ∃ requestId, hashedRequestId python name id = .ok requestId ∧ requestId.Plain := by
  obtain ⟨chars, same⟩ := PyText.plain_iff.mp ((plain_identity python name id).mpr ⟨named, sent⟩)
  rw [hashedRequestId, same, PyText.plain?_map_char]
  exact ⟨_, rfl, PyText.plain_ofString _⟩

theorem hashedRequestId_of_not_plain {name : PyText} {id : SentId} (wild : ¬ (name.Plain ∧ PlainValue id.value)) :
    hashedRequestId python name id = .error .unicode := by
  rw [← plain_identity python name id] at wild
  cases read : (identityText python name id).plain? with
  | none => rw [hashedRequestId, read]
  | some chars => exact absurd (PyText.plain_iff.mpr ⟨chars, PyText.plain?_eq_some.mp read⟩) wild

variable (python) in
theorem stableRequestId_of_plain {name : PyText} {id : SentId} (named : name.Plain) (sent : PlainValue id.value) :
    ∃ requestId, stableRequestId python name id = .ok requestId ∧ requestId.Plain := by
  obtain ⟨requestId, hashed, plain⟩ := hashedRequestId_of_plain python named sent
  cases number : id.digits? python.floats with
  | none => exact ⟨requestId, by rw [stableRequestId, number, hashed], plain⟩
  | some digits =>
    obtain ⟨bytes, -, encoded⟩ := encodeUtf8_of_plain ((plain_readable name digits).mpr named)
    simp only [stableRequestId, number, encoded, bind, Except.bind]
    split
    · exact ⟨_, rfl, (plain_readable name digits).mpr named⟩
    · exact ⟨requestId, hashed, plain⟩

theorem stableRequestId_of_not_plain {name : PyText} {id : SentId} (wild : ¬ (name.Plain ∧ PlainValue id.value)) :
    stableRequestId python name id = .error .unicode := by
  cases number : id.digits? python.floats with
  | none => simp only [stableRequestId, number, hashedRequestId_of_not_plain wild]
  | some digits =>
    have numeric : PlainValue id.value := by
      cases id with
      | int value => exact .int value
      | float value => exact .float value
      | str text => cases number
    have unnamed : ¬ name.Plain := fun named => wild ⟨named, numeric⟩
    have failed := encodeUtf8_of_not_plain fun plain => unnamed ((plain_readable name digits).mp plain)
    simp only [stableRequestId, number, failed, bind, Except.bind]

theorem encodePayload_of_plain {payload : Entries} (formed : WellFormed python.floats python.depth (.obj payload))
    (plain : PlainValue (.obj payload)) : ∃ bytes, encodePayload python payload = .ok bytes ∧
      (dumps python.floats (.obj payload)).encode = some bytes := by
  obtain ⟨bytes, encoded, written⟩ := encodeUtf8_of_plain ((plain_dumps formed).mpr plain)
  refine ⟨bytes, ?_, encoded⟩
  rw [encodePayload, checkDumps_eq_ok formed, written]
  rfl

theorem encodePayload_of_not_plain {payload : Entries}
    (formed : WellFormed python.floats python.depth (.obj payload)) (wild : ¬ PlainValue (.obj payload)) :
    encodePayload python payload = .error .unicode := by
  rw [encodePayload, checkDumps_eq_ok formed, encodeUtf8_of_not_plain fun plain => wild ((plain_dumps formed).mp plain)]
  rfl

end Preparation

end Operly.Mcp.Body
