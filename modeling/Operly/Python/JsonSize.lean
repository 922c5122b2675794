import Operly.Python.JsonWriting

/-! The number of bytes that `json.dumps` writes. -/

namespace Python

namespace Json
variable (spelling : Spelling)

/-- `len(json.dumps(value, separators=(",", ":")).encode("utf-8"))` -/
def bytes (value : Json) : Nat := (value.dumps spelling).utf8ByteSize

def textBytes (text : String) : Nat := (quoted text).utf8ByteSize

def fieldBytes (key : String) (value : Nat) : Nat := textBytes key + 1 + value

theorem bytes_eq_written (value : Json) : bytes spelling value = writtenBytes quoted spelling value := by
  rw [bytes, dumps_eq_written, writtenBytes]

theorem bytes_map_eq_written : bytes spelling = writtenBytes quoted spelling := funext (bytes_eq_written spelling)

@[simp] theorem bytes_str (text : String) : bytes spelling (.str text) = textBytes text := by
  rw [bytes, dumps, textBytes]

theorem bytes_arr (items : List Json) : bytes spelling (.arr items) =
    2 + (items.map (bytes spelling)).sum + (items.length - 1) := by
  rw [bytes_map_eq_written, writtenBytes_arr]

theorem bytes_obj (fields : Fields) : bytes spelling (.obj fields) =
    2 + (fields.map fun entry => fieldBytes entry.1 (bytes spelling entry.2)).sum + (fields.length - 1) := by
  rw [bytes_map_eq_written, writtenBytes_obj]
  rfl

theorem bytes_sortKeys (value : Json) : bytes spelling value.sortKeys = bytes spelling value := by
  rw [bytes_map_eq_written, writtenBytes_sortKeys]

end Json

example : Json.bytes ⟨fun _ => "", fun _ => ""⟩ (.obj [("a", .arr [.int 1, .str "é"]), ("b", .null)]) = 27 := by
  decide

end Python
