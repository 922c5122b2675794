import Operly.Python.Text

/-! Python strings that may hold lone surrogates, and the encodings that `json.loads` reads bytes in. -/

namespace Python

/-- A code point of a Python string: a character, or the surrogate U+D800 + `unit`. -/
inductive CodePoint where
  | char (c : Char)
  | surrogate (unit : Fin 2048)
  deriving DecidableEq

/-- `ord` -/
def CodePoint.value : CodePoint → Nat
  | .char c => c.toNat
  | .surrogate unit => 0xD800 + unit

/-- A Python `str`. -/
abbrev PyText := List CodePoint

namespace PyText

def ofString (text : String) : PyText := text.toList.map .char

def isSpacePoint : CodePoint → Bool
  | .char c => isSpace c
  | .surrogate _ => false

def strip (text : PyText) : PyText :=
  ((text.dropWhile isSpacePoint).reverse.dropWhile isSpacePoint).reverse

def plain? : PyText → Option (List Char)
  | [] => some []
  | .char c :: rest => (plain? rest).map (c :: ·)
  | .surrogate _ :: _ => none

def Plain (text : PyText) : Prop := ∀ unit, .surrogate unit ∉ text

/-- `text.encode("utf-8")`; `none` stands for `UnicodeEncodeError`. -/
def encode (text : PyText) : Option (List UInt8) :=
  text.plain?.map fun chars => chars.flatMap String.utf8EncodeChar

@[simp] theorem plain_nil : Plain [] := fun _ => List.not_mem_nil

@[simp] theorem plain_char (c : Char) (rest : PyText) : Plain (.char c :: rest) ↔ Plain rest := by
  simp [Plain]

@[simp] theorem not_plain_surrogate (unit : Fin 2048) (rest : PyText) : ¬ Plain (.surrogate unit :: rest) := by
  intro plain
  exact plain unit List.mem_cons_self

theorem plain_append (first second : PyText) : Plain (first ++ second) ↔ Plain first ∧ Plain second := by
  simp only [Plain, List.mem_append, not_or, forall_and]

theorem plain_map_char (chars : List Char) : Plain (chars.map .char) := by
  intro unit member
  simp at member

theorem plain_ofString (text : String) : Plain (ofString text) := plain_map_char _

theorem plain?_map_char (chars : List Char) : plain? (chars.map .char) = some chars := by
  induction chars with
  | nil => rfl
  | cons c rest ih => rw [List.map_cons, plain?, ih, Option.map_some]

theorem plain?_eq_some {text : PyText} {chars : List Char} : plain? text = some chars ↔ text = chars.map .char := by
  constructor
  · intro read
    induction text generalizing chars with
    | nil =>
      cases read
      rfl
    | cons point rest ih =>
      cases point with
      | char c =>
        rw [plain?, Option.map_eq_some_iff] at read
        obtain ⟨tail, readTail, joined⟩ := read
        rw [← joined, List.map_cons, ← ih readTail]
      | surrogate unit => cases read
  · intro same
    rw [same, plain?_map_char]

theorem plain_iff {text : PyText} : Plain text ↔ ∃ chars : List Char, text = chars.map .char := by
  constructor
  · intro plain
    induction text with
    | nil => exact ⟨[], rfl⟩
    | cons point rest ih =>
      cases point with
      | char c =>
        obtain ⟨chars, same⟩ := ih ((plain_char c rest).mp plain)
        exact ⟨c :: chars, by rw [same, List.map_cons]⟩
      | surrogate unit => exact absurd plain (not_plain_surrogate unit rest)
  · intro held
    obtain ⟨chars, same⟩ := held
    rw [same]
    exact plain_map_char chars

instance decidablePlain (text : PyText) : Decidable (Plain text) :=
  match text with
  | [] => isTrue plain_nil
  | .char c :: rest => have := decidablePlain rest; decidable_of_iff (Plain rest) (plain_char c rest).symm
  | .surrogate unit :: rest => isFalse (not_plain_surrogate unit rest)

theorem encode_eq_none {text : PyText} : encode text = none ↔ ¬ Plain text := by
  rw [encode, Option.map_eq_none_iff]
  constructor
  · intro unread plain
    obtain ⟨chars, same⟩ := plain_iff.mp plain
    rw [same, plain?_map_char] at unread
    cases unread
  · intro wild
    cases read : plain? text with
    | none => rfl
    | some chars => exact absurd (plain_iff.mpr ⟨chars, plain?_eq_some.mp read⟩) wild

theorem encode_of_plain {text : PyText} (plain : Plain text) : ∃ bytes, encode text = some bytes := by
  rw [← Option.isSome_iff_exists, Option.isSome_iff_ne_none]
  exact fun failed => encode_eq_none.mp failed plain

end PyText

def CodePoint.ofNat? (point : Nat) : Option CodePoint :=
  if 0xD800 ≤ point ∧ point < 0xE000 then some (.surrogate (Fin.ofNat 2048 (point - 0xD800)))
  else if point < 0x110000 then some (.char (Char.ofNat point))
  else none

def decodeWith (step : List UInt8 → Option (CodePoint × List UInt8)) : Nat → List UInt8 → Option PyText
  | _, [] => some []
  | 0, _ :: _ => none
  | fuel + 1, byte :: bytes => do
      let (point, rest) ← step (byte :: bytes)
      let points ← decodeWith step fuel rest
      some (point :: points)

def utf8Step (bytes : List UInt8) : Option (CodePoint × List UInt8) :=
  match bytes.toByteArray.utf8DecodeChar? 0 with
  | some c => some (.char c, bytes.drop c.utf8Size)
  | none =>
      match bytes with
      | first :: second :: third :: rest =>
          if first = 0xED ∧ 0xA0 ≤ second ∧ second ≤ 0xBF ∧ 0x80 ≤ third ∧ third ≤ 0xBF then
            some (.surrogate (Fin.ofNat 2048 ((second.toNat - 0xA0) * 64 + (third.toNat - 0x80))), rest)
          else none
      | _ => none

inductive ByteOrder where
  | little
  | big
  deriving DecidableEq

def ByteOrder.number : ByteOrder → List UInt8 → Nat
  | .little, bytes => bytes.foldr (fun byte total => 256 * total + byte.toNat) 0
  | .big, bytes => bytes.foldl (fun total byte => 256 * total + byte.toNat) 0

def utf16Step (order : ByteOrder) : List UInt8 → Option (CodePoint × List UInt8)
  | a :: b :: rest =>
      let high := order.number [a, b]
      let alone := (CodePoint.ofNat? high).map fun point => (point, rest)
      match rest with
      | c :: d :: later =>
          let low := order.number [c, d]
          if 0xD800 ≤ high ∧ high < 0xDC00 ∧ 0xDC00 ≤ low ∧ low < 0xE000 then
            some (.char (Char.ofNat (0x10000 + (high - 0xD800) * 1024 + (low - 0xDC00))), later)
          else alone
      | _ => alone
  | _ => none

def utf32Step (order : ByteOrder) : List UInt8 → Option (CodePoint × List UInt8)
  | a :: b :: c :: d :: rest => (CodePoint.ofNat? (order.number [a, b, c, d])).map fun point => (point, rest)
  | _ => none

inductive Encoding where
  | utf8
  | utf8Sig
  | utf16
  | utf16Of (order : ByteOrder)
  | utf32
  | utf32Of (order : ByteOrder)
  deriving DecidableEq

def detectEncoding (bytes : List UInt8) : Encoding :=
  if [0x00, 0x00, 0xFE, 0xFF] <+: bytes ∨ [0xFF, 0xFE, 0x00, 0x00] <+: bytes then .utf32
  else if [0xFE, 0xFF] <+: bytes ∨ [0xFF, 0xFE] <+: bytes then .utf16
  else if [0xEF, 0xBB, 0xBF] <+: bytes then .utf8Sig
  else
    match bytes with
    | a :: b :: c :: d :: _ =>
        if a = 0 then (if b ≠ 0 then .utf16Of .big else .utf32Of .big)
        else if b = 0 then (if c ≠ 0 ∨ d ≠ 0 then .utf16Of .little else .utf32Of .little)
        else .utf8
    | [a, b] => if a = 0 then .utf16Of .big else if b = 0 then .utf16Of .little else .utf8
    | _ => .utf8

/-- `bytes.decode(encoding, "surrogatepass")`; `none` stands for `UnicodeDecodeError`. -/
def decode (encoding : Encoding) (bytes : List UInt8) : Option PyText :=
  match encoding with
  | .utf8 => decodeWith utf8Step bytes.length bytes
  | .utf8Sig =>
      if [0xEF, 0xBB, 0xBF] <+: bytes then decodeWith utf8Step bytes.length (bytes.drop 3)
      else decodeWith utf8Step bytes.length bytes
  | .utf16Of order => decodeWith (utf16Step order) bytes.length bytes
  | .utf32Of order => decodeWith (utf32Step order) bytes.length bytes
  | .utf16 =>
      -- the byte order mark is not part of the text
      if [0xFE, 0xFF] <+: bytes then decodeWith (utf16Step .big) bytes.length (bytes.drop 2)
      else if [0xFF, 0xFE] <+: bytes then decodeWith (utf16Step .little) bytes.length (bytes.drop 2)
      else decodeWith (utf16Step .little) bytes.length bytes
  | .utf32 =>
      if [0x00, 0x00, 0xFE, 0xFF] <+: bytes then decodeWith (utf32Step .big) bytes.length (bytes.drop 4)
      else if [0xFF, 0xFE, 0x00, 0x00] <+: bytes then
        decodeWith (utf32Step .little) bytes.length (bytes.drop 4)
      else decodeWith (utf32Step .little) bytes.length bytes

/-! ### What decoding takes from the bytes -/

def Consumes (step : List UInt8 → Option (CodePoint × List UInt8)) : Prop :=
  ∀ {bytes point rest}, step bytes = some (point, rest) → rest.length < bytes.length

theorem utf8Step_consumes : Consumes utf8Step := by
  intro bytes point rest stepped
  unfold utf8Step at stepped
  split at stepped
  · next c read =>
    cases stepped
    have nonempty : bytes ≠ [] := by
      intro emptied
      have nothing : ([] : List UInt8).toByteArray.utf8DecodeChar? 0 = none := by decide
      rw [emptied, nothing] at read
      cases read
    have shorter := List.length_pos_of_ne_nil nonempty
    have size := c.utf8Size_pos
    rw [List.length_drop]
    omega
  · split at stepped
    · split at stepped
      · cases stepped
        simp only [List.length_cons]
        omega
      · cases stepped
    · cases stepped

theorem decodeWith_fuel {step : List UInt8 → Option (CodePoint × List UInt8)} (consumes : Consumes step)
    {fuel : Nat} {bytes : List UInt8} (enough : bytes.length ≤ fuel) :
    decodeWith step fuel bytes = decodeWith step bytes.length bytes := by
  induction fuel using Nat.strong_induction_on generalizing bytes with
  | _ fuel ih =>
    cases bytes with
    | nil => cases fuel <;> rfl
    | cons byte later =>
      cases fuel with
      | zero => simp at enough
      | succ fuel =>
        rw [List.length_cons, decodeWith, decodeWith]
        rw [List.length_cons] at enough
        cases stepped : step (byte :: later) with
        | none => rfl
        | some read =>
          obtain ⟨point, rest⟩ := read
          have shorter := consumes stepped
          rw [List.length_cons] at shorter
          have here := @ih fuel (by omega) rest (by omega)
          have there := @ih later.length (by omega) rest (by omega)
          simp only [Option.bind_eq_bind, Option.bind_some]
          rw [here, there]

theorem utf8Step_encode (c : Char) (rest : List UInt8) :
    utf8Step (String.utf8EncodeChar c ++ rest) = some (.char c, rest) := by
  have read : (String.utf8EncodeChar c ++ rest).toByteArray.utf8DecodeChar? 0 = some c := by
    rw [List.toByteArray_append]
    exact ByteArray.utf8DecodeChar?_utf8EncodeChar_append
  simp only [utf8Step, read, List.drop_left' (String.length_utf8EncodeChar c)]

theorem decodeWith_utf8 (chars : List Char) {fuel : Nat}
    (enough : (chars.flatMap String.utf8EncodeChar).length ≤ fuel) :
    decodeWith utf8Step fuel (chars.flatMap String.utf8EncodeChar) = some (chars.map .char) := by
  rw [decodeWith_fuel utf8Step_consumes enough]
  clear enough
  induction chars with
  | nil => rfl
  | cons c rest ih =>
    rw [List.flatMap_cons]
    have size : (String.utf8EncodeChar c).length = c.utf8Size := String.length_utf8EncodeChar c
    have positive := c.utf8Size_pos
    have stepped := utf8Step_encode c (rest.flatMap String.utf8EncodeChar)
    cases written : String.utf8EncodeChar c ++ rest.flatMap String.utf8EncodeChar with
    | nil =>
      have lengths := congrArg List.length written
      rw [List.length_append, List.length_nil] at lengths
      omega
    | cons byte bytes =>
      have lengths := congrArg List.length written
      rw [List.length_append, List.length_cons] at lengths
      rw [written] at stepped
      rw [List.length_cons, decodeWith, stepped]
      have tail : decodeWith utf8Step bytes.length (rest.flatMap String.utf8EncodeChar) = _ :=
        decodeWith_fuel utf8Step_consumes (by omega)
      simp only [Option.bind_eq_bind, Option.bind_some]
      rw [tail, ih, Option.bind_some, List.map_cons]

theorem utf8EncodeChar_ascii {c : Char} (ascii : c.toNat < 128) :
    String.utf8EncodeChar c = [UInt8.ofNat c.toNat] := by
  have small : c.val.toNat ≤ 127 := Nat.lt_succ_iff.mp ascii
  rw [String.utf8EncodeChar, if_pos small]
  rfl

theorem detectEncoding_ascii {first second : UInt8} (rest : List UInt8) (one : 0 < first ∧ first < 128)
    (two : 0 < second ∧ second < 128) : detectEncoding (first :: second :: rest) = .utf8 := by
  have positive : first ≠ 0 ∧ second ≠ 0 := by grind
  have marks : first ≠ 0xFE ∧ first ≠ 0xFF ∧ first ≠ 0xEF := by grind
  unfold detectEncoding
  rw [if_neg, if_neg, if_neg]
  · split
    · next shape =>
      cases shape
      rw [if_neg positive.1, if_neg positive.2]
    · next shape =>
      cases shape
      rw [if_neg positive.1, if_neg positive.2]
    · rfl
  · simp [Ne.symm marks.2.2]
  · simp [Ne.symm marks.1, Ne.symm marks.2.1]
  · simp [Ne.symm positive.1, Ne.symm marks.2.1]

theorem decode_encode {first second : Char} {rest : PyText} {bytes : List UInt8}
    (one : 0 < first.toNat ∧ first.toNat < 128) (two : 0 < second.toNat ∧ second.toNat < 128)
    (encoded : PyText.encode (.char first :: .char second :: rest) = some bytes) :
    decode (detectEncoding bytes) bytes = some (.char first :: .char second :: rest) := by
  rw [PyText.encode, Option.map_eq_some_iff] at encoded
  obtain ⟨chars, plain, written⟩ := encoded
  have text := PyText.plain?_eq_some.mp plain
  cases chars with
  | nil => cases text
  | cons c tail =>
    cases tail with
    | nil => cases text
    | cons d tail =>
      simp only [List.map_cons, List.cons.injEq, CodePoint.char.injEq] at text
      obtain ⟨rfl, rfl, same⟩ := text
      have ascii : detectEncoding bytes = .utf8 := by
        have inside : ∀ {n : Nat}, 0 < n ∧ n < 128 → 0 < UInt8.ofNat n ∧ UInt8.ofNat n < 128 := by
          intro n bounds
          rw [UInt8.lt_iff_toNat_lt, UInt8.lt_iff_toNat_lt, UInt8.toNat_ofNat',
            Nat.mod_eq_of_lt (show n < 2 ^ 8 by omega)]
          exact bounds
        rw [← written, List.flatMap_cons, List.flatMap_cons, utf8EncodeChar_ascii one.2,
          utf8EncodeChar_ascii two.2]
        exact detectEncoding_ascii _ (inside one) (inside two)
      have read := decodeWith_utf8 (first :: second :: tail) le_rfl
      rw [written] at read
      rw [ascii, decode, read, List.map_cons, List.map_cons, same]

end Python
