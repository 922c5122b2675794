import Operly.Python.JsonText

/-! `json.dumps` with and without `ensure_ascii`, and the number of bytes that it writes. -/

namespace Python

theorem utf8ByteSize_joined (texts : List String) :
    (",".intercalate texts).utf8ByteSize = (texts.map String.utf8ByteSize).sum + (texts.length - 1) := by
  induction texts with
  | nil => simp
  | cons text rest ih =>
    cases rest with
    | nil => simp
    | cons second later =>
      have comma : (",").utf8ByteSize = 1 := by decide
      rw [String.intercalate_cons_cons, String.utf8ByteSize_append, String.utf8ByteSize_append, ih, comma]
      simp only [List.map_cons, List.sum_cons, List.length_cons]
      omega

namespace Json

mutual
/-- `json.dumps(value, separators=(",", ":"))`, up to the way in which texts are quoted -/
def written (quote : String → String) (spelling : Spelling) : Json → String
  | .null => "null"
  | .bool value => if value then "true" else "false"
  | .int value => toString value
  | .float (.finite value) => spelling.float (.finite value)
  | .float .negativeZero => spelling.float .negativeZero
  | .float (.infinity negative) => if negative then "-Infinity" else "Infinity"
  | .float .nan => "NaN"
  | .str text => quote text
  | .arr items => "[" ++ ",".intercalate (writtenItems quote spelling items) ++ "]"
  | .obj fields => "\x7b" ++ ",".intercalate (writtenFields quote spelling fields) ++ "\x7d"
def writtenItems (quote : String → String) (spelling : Spelling) : List Json → List String
  | [] => []
  | item :: rest => written quote spelling item :: writtenItems quote spelling rest
def writtenFields (quote : String → String) (spelling : Spelling) : Fields → List String
  | [] => []
  | (key, item) :: rest => (quote key ++ ":" ++ written quote spelling item) :: writtenFields quote spelling rest
end

mutual
theorem dumps_eq_written (spelling : Spelling) : ∀ value : Json, dumps spelling value = written quoted spelling value
  | .null | .bool _ | .int _ | .str _ => by simp only [dumps, written]
  | .float value => by cases value <;> simp only [dumps, written]
  | .arr items => by rw [dumps, written, dumpsItems_eq_written spelling items]
  | .obj fields => by rw [dumps, written, dumpsFields_eq_written spelling fields]
theorem dumpsItems_eq_written (spelling : Spelling) : ∀ items : List Json,
    dumpsItems spelling items = writtenItems quoted spelling items
  | [] => by simp only [dumpsItems, writtenItems]
  | item :: rest => by rw [dumpsItems, writtenItems, dumps_eq_written spelling item, dumpsItems_eq_written spelling rest]
theorem dumpsFields_eq_written (spelling : Spelling) : ∀ fields : Fields,
    dumpsFields spelling fields = writtenFields quoted spelling fields
  | [] => by simp only [dumpsFields, writtenFields]
  | (key, item) :: rest => by
      rw [dumpsFields, writtenFields, dumps_eq_written spelling item, dumpsFields_eq_written spelling rest]
end

variable (quote : String → String) (spelling : Spelling)

def writtenBytes (value : Json) : Nat := (value.written quote spelling).utf8ByteSize

def entryBytes (entry : String × Json) : Nat := (quote entry.1).utf8ByteSize + 1 + writtenBytes quote spelling entry.2

theorem writtenItems_eq (items : List Json) : writtenItems quote spelling items = items.map (written quote spelling) := by
  induction items with
  | nil => rfl
  | cons item rest ih => rw [writtenItems, ih, List.map_cons]

theorem writtenFields_eq (fields : Fields) : writtenFields quote spelling fields =
    fields.map fun entry => quote entry.1 ++ ":" ++ written quote spelling entry.2 := by
  induction fields with
  | nil => rfl
  | cons entry rest ih => rw [writtenFields, ih, List.map_cons]

@[simp] theorem writtenBytes_str (text : String) : writtenBytes quote spelling (.str text) = (quote text).utf8ByteSize := by
  rw [writtenBytes, written]

theorem utf8ByteSize_bracketed {opening closing : String} (texts : List String) (first : opening.utf8ByteSize = 1)
    (last : closing.utf8ByteSize = 1) : (opening ++ ",".intercalate texts ++ closing).utf8ByteSize =
      2 + (texts.map String.utf8ByteSize).sum + (texts.length - 1) := by
  rw [String.utf8ByteSize_append, String.utf8ByteSize_append, utf8ByteSize_joined, first, last]
  omega

theorem writtenBytes_arr (items : List Json) : writtenBytes quote spelling (.arr items) =
    2 + (items.map (writtenBytes quote spelling)).sum + (items.length - 1) := by
  rw [writtenBytes, written, writtenItems_eq, utf8ByteSize_bracketed _ (by decide) (by decide), List.map_map,
    List.length_map]
  rfl

theorem writtenBytes_obj (fields : Fields) : writtenBytes quote spelling (.obj fields) =
    2 + (fields.map (entryBytes quote spelling)).sum + (fields.length - 1) := by
  have entries : String.utf8ByteSize ∘ (fun entry : String × Json => quote entry.1 ++ ":" ++ written quote spelling entry.2) =
      entryBytes quote spelling := by
    funext entry
    have colon : (":").utf8ByteSize = 1 := by decide
    rw [Function.comp_apply, String.utf8ByteSize_append, String.utf8ByteSize_append, colon]
    rfl
  rw [writtenBytes, written, writtenFields_eq, utf8ByteSize_bracketed _ (by decide) (by decide), List.map_map,
    List.length_map, entries]

theorem writtenBytes_byKey (fields : Fields) :
    writtenBytes quote spelling (.obj (byKey fields)) = writtenBytes quote spelling (.obj fields) := by
  have permuted : (byKey fields).Perm fields := List.perm_insertionSort _ _
  rw [writtenBytes_obj, writtenBytes_obj, (permuted.map _).sum_nat, permuted.length_eq]

mutual
theorem writtenBytes_sortKeys : ∀ value : Json, writtenBytes quote spelling value.sortKeys = writtenBytes quote spelling value
  | .null | .bool _ | .int _ | .float _ | .str _ => by simp only [sortKeys]
  | .arr items => by
      have each := writtenBytes_sortItems items
      rw [sortKeys, writtenBytes_arr, writtenBytes_arr, each, sortItems_eq, List.length_map]
  | .obj fields => by
      have each := writtenBytes_sortFields fields
      rw [sortKeys, writtenBytes_byKey, writtenBytes_obj, writtenBytes_obj, each, sortFields_eq, List.length_map]
theorem writtenBytes_sortItems : ∀ items : List Json,
    ((sortItems items).map (writtenBytes quote spelling)).sum = (items.map (writtenBytes quote spelling)).sum
  | [] => rfl
  | item :: rest => by
      simp only [sortItems, List.map_cons, List.sum_cons]
      rw [writtenBytes_sortKeys item, writtenBytes_sortItems rest]
theorem writtenBytes_sortFields : ∀ fields : Fields,
    ((sortFields fields).map (entryBytes quote spelling)).sum = (fields.map (entryBytes quote spelling)).sum
  | [] => rfl
  | (key, value) :: rest => by
      simp only [sortFields, List.map_cons, List.sum_cons, entryBytes]
      rw [writtenBytes_sortKeys value, writtenBytes_sortFields rest]
end

end Json

def escapeBytes (c : Char) : Nat :=
  if c = '"' ∨ c = '\\' ∨ c = '\n' ∨ c = '\r' ∨ c = '\t' ∨ c.toNat = 8 ∨ c.toNat = 12 then 1
  else if c.toNat < 32 then 5
  else 0

def escapedBytes (text : String) : Nat := (text.toList.map escapeBytes).sum

theorem utf8ByteSize_ofList (text : List Char) : (String.ofList text).utf8ByteSize = (text.map Char.utf8Size).sum := by
  induction text with
  | nil => rfl
  | cons c rest ih =>
    rw [← List.singleton_append, String.ofList_append, String.utf8ByteSize_append, ih, List.map_append, List.sum_append]
    congr 1
    simp

theorem utf8Size_plainChar (c : Char) : ((plainChar c).map Char.utf8Size).sum = c.utf8Size + escapeBytes c := by
  by_cases control : c.toNat < 32
  · have written : ∀ n < 32, ((plainChar (Char.ofNat n)).map Char.utf8Size).sum =
        (Char.ofNat n).utf8Size + escapeBytes (Char.ofNat n) := by decide
    simpa using written c.toNat control
  · rcases plainChar_printable (not_lt.mp control) with rfl | rfl | ⟨backslash, itself⟩
    · decide
    · decide
    · have quote : c ≠ '"' := by
        rintro rfl
        exact absurd itself (by decide)
      have apart : ¬ (c = '"' ∨ c = '\\' ∨ c = '\n' ∨ c = '\r' ∨ c = '\t' ∨ c.toNat = 8 ∨ c.toNat = 12) := by
        rintro (same | same | same | same | same | same | same)
        · exact quote same
        · exact backslash same
        · exact control (same ▸ by decide)
        · exact control (same ▸ by decide)
        · exact control (same ▸ by decide)
        · omega
        · omega
      rw [itself, escapeBytes, if_neg apart, if_neg control]
      simp

theorem utf8ByteSize_plainQuoted (text : String) :
    (plainQuoted text).utf8ByteSize = text.utf8ByteSize + escapedBytes text + 2 := by
  have quote : ("\"").utf8ByteSize = 1 := by decide
  have chars : (text.toList.flatMap plainChar).map Char.utf8Size =
      text.toList.flatMap fun c => (plainChar c).map Char.utf8Size := List.map_flatMap ..
  have total : ∀ rest : List Char, ((rest.flatMap fun c => (plainChar c).map Char.utf8Size)).sum =
      (rest.map Char.utf8Size).sum + (rest.map escapeBytes).sum := by
    intro rest
    induction rest with
    | nil => rfl
    | cons c later ih =>
      rw [List.flatMap_cons, List.sum_append, ih, utf8Size_plainChar, List.map_cons, List.map_cons, List.sum_cons,
        List.sum_cons]
      omega
  have own : text.utf8ByteSize = (text.toList.map Char.utf8Size).sum := by
    rw [← utf8ByteSize_ofList, String.ofList_toList]
  rw [plainQuoted, String.utf8ByteSize_append, String.utf8ByteSize_append, quote,
    utf8ByteSize_ofList, chars, total, own, escapedBytes]
  omega

theorem utf8ByteSize_plainQuoted_ofList (text : List Char) : (plainQuoted (String.ofList text)).utf8ByteSize =
    (text.map fun c => c.utf8Size + escapeBytes c).sum + 2 := by
  have split : ∀ rest : List Char, (rest.map fun c => c.utf8Size + escapeBytes c).sum =
      (rest.map Char.utf8Size).sum + (rest.map escapeBytes).sum := by
    intro rest
    induction rest with
    | nil => rfl
    | cons c later ih =>
      simp only [List.map_cons, List.sum_cons, ih]
      omega
  rw [utf8ByteSize_plainQuoted, split, escapedBytes, utf8ByteSize_ofList, String.toList_ofList]

end Python
