import Operly.Agent.Objective
import Operly.Agent.Contracts
import Operly.Kernel.CapabilitySearch

/-! The next move of the interactive loop, as a model words it, and what is told of a move that was made. -/

namespace Operly.Agent
open Python Kernel

inductive RawDecision where
  | bytes (data : List UInt8)
  | text (text : String)
  | value (value : Json)

inductive Decision where
  | call (capabilityId : String) (arguments : Fields)
  | discover (query : String)
  | finish (message : String)

structure Encoding extends Spelling where
  /-- `json.loads` -/
  loads : String → Except KernelError Json
  /-- `json.dumps(value, ensure_ascii=False, separators=(",", ":"), sort_keys=True)` -/
  dumpsUnicode : Json → String
  /-- `sha256(text.encode("utf-8")).hexdigest()` -/
  sha256 : String → String

def authorityFields : List String :=
  ["workspace_id", "user_id", "principal_id", "membership_id", "permissions", "role", "approval_id", "provider_id",
    "provider_url", "credentials", "request_id", "step_id"]

def isLineBreak (c : Char) : Bool :=
  [10, 11, 12, 13, 28, 29, 30, 133, 8232, 8233].contains c.toNat

/-- `text.splitlines()`; `line` collects the current one in reverse. -/
def linesFrom (line : List Char) : List Char → List (List Char)
  | [] => if line.isEmpty then [] else [line.reverse]
  | '\r' :: '\n' :: rest => line.reverse :: linesFrom [] rest
  | c :: rest => if isLineBreak c then line.reverse :: linesFrom [] rest else linesFrom (c :: line) rest

def splitLines (text : String) : List String := (linesFrom [] text.toList).map String.ofList

def unfenced (text : String) : String :=
  let text := strip text
  if startsWith text "```" ∧ endsWith text "```" then
    let lines := splitLines text
    if 3 ≤ lines.length ∧ ["```", "```json"].contains (lower (strip (lines.headD ""))) ∧
        strip (lines.getLastD "") = "```" then
      strip ("\n".intercalate lines.tail.dropLast)
    else text
  else text

section Decode
variable (encoding : Encoding)

def decodeMove (raw : Fields) : Except KernelError Decision :=
  if raw.any fun entry => authorityFields.contains entry.1 then
    .error (.value "decision contains authority-shaped fields")
  else
    let text (key : String) := textOf encoding.toSpelling (Fields.get raw key)
    match lower (strip (text "move")) with
    | "call" =>
        let capabilityId := lower (strip (text "capability_id"))
        match Fields.get raw "arguments" with
        | some (.obj arguments) =>
            if capabilityId = "" ∨ 300 < capabilityId.length then .error (.value "call decision fields are invalid")
            else .ok (.call capabilityId arguments)
        | _ => .error (.value "call decision fields are invalid")
    | "discover" =>
        let query := collapse (text "query")
        if query = "" ∨ 500 < query.length then .error (.value "discover query is invalid") else .ok (.discover query)
    | "finish" =>
        let message := strip (text "message")
        if message = "" ∨ 20000 < message.length then .error (.value "finish message is invalid")
        else .ok (.finish message)
    | _ => .error (.value "unsupported next move")

def decodeValue : Json → Except KernelError Decision
  | .obj raw => decodeMove encoding raw
  | _ => .error (.value "decision must be a JSON object")

def decodeText (text : String) : Except KernelError Decision := do
  if 24 * 1024 < text.utf8ByteSize then throw (.value "decision output too large")
  decodeValue encoding (← encoding.loads (unfenced text))

def decodeDecision : RawDecision → Except KernelError Decision
  | .bytes data =>
      if 24 * 1024 < data.length then .error (.value "decision output too large")
      else
        match String.fromUTF8? ⟨data.toArray⟩ with
        | none => .error (.value "UnicodeDecodeError")
        | some text => decodeText encoding text
  | .text text => decodeText encoding text
  | .value value => decodeValue encoding value

def fingerprint (value : String) : String := String.ofList ((encoding.sha256 value).toList.take 16)

def boundedObservation (maxObservationBytes : Nat) (capabilityId : String) (result : Option Fields)
    (errorCode error : Option String) : Json :=
  let failed := errorCode.filter (· ≠ "")
  let payload : Fields := [("capability_id", .str capabilityId), ("ok", .bool errorCode.isNone)] ++
    (result.map fun value => ("result", Json.obj value)).toList ++
    match failed with
    | none => []
    | some code => [("error_code", .str code), ("error", .str (String.ofList ((error.getD "").toList.take 500)))]
  let encoded := encoding.dumpsUnicode (.obj payload)
  if maxObservationBytes < encoded.utf8ByteSize then
    let keys := (((result.getD []).map (·.1)).insertionSort (· ≤ ·)).take 30
    .obj ([("capability_id", .str capabilityId), ("ok", .bool errorCode.isNone),
      ("result_summary", .obj [("bytes", .int encoded.utf8ByteSize), ("sha256_16", .str (fingerprint encoding encoded)),
        ("top_level_keys", .arr (keys.map .str))])] ++ (failed.map fun code => ("error_code", Json.str code)).toList)
  else .obj payload

def signature (capabilityId : String) (arguments : Fields) : String :=
  encoding.sha256 (capabilityId ++ "\x00" ++ Json.dumps encoding.toSpelling (Json.obj arguments).sortKeys)

end Decode

def SameArguments (arguments others : Fields) : Prop := (Json.obj arguments).sortKeys = (Json.obj others).sortKeys

instance (arguments others : Fields) : Decidable (SameArguments arguments others) :=
  inferInstanceAs (Decidable (_ = _))

theorem signature_of_same (encoding : Encoding) (capabilityId : String) {arguments others : Fields}
    (same : SameArguments arguments others) : signature encoding capabilityId arguments = signature encoding capabilityId others := by
  rw [signature, signature, show (Json.obj arguments).sortKeys = (Json.obj others).sortKeys from same]

end Operly.Agent
