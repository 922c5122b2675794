import Operly.Python.Text

/-! `urllib.parse.unquote` with `errors="strict"`: percent-escapes, and the UTF-8 that they spell. -/

namespace Python

def hexDigitValue (c : Char) : Option Nat :=
  if '0' ≤ c ∧ c ≤ '9' then some (c.toNat - 48)
  else if 'a' ≤ c ∧ c ≤ 'f' then some (c.toNat - 87)
  else if 'A' ≤ c ∧ c ≤ 'F' then some (c.toNat - 55)
  else none

def escapeAt : List Char → Option Nat
  | percent :: high :: low :: _ =>
      if percent = '%' then (hexDigitValue high).bind fun first => (hexDigitValue low).map fun second => 16 * first + second
      else none
  | _ => none

/-- A byte to decode, or a character above ASCII, which is no part of any byte sequence. -/
inductive Octet where
  | byte (value : Nat)
  | char (c : Char)

def octetOf (c : Char) : Octet := if c.toNat < 128 then .byte c.toNat else .char c

def octets : Nat → List Char → List Octet
  | _, [] => []
  | skip + 1, _ :: rest => octets skip rest
  | 0, c :: rest =>
      match escapeAt (c :: rest) with
      | some value => .byte value :: octets 2 rest
      | none => octetOf c :: octets 0 rest

def continued : Nat → Nat → List Octet → Option Nat
  | 0, value, _ => some value
  | left + 1, value, .byte next :: rest =>
      if 128 ≤ next ∧ next < 192 then continued left (64 * value + (next - 128)) rest else none
  | _, _, _ => none

/-- A character of so many further bytes, unless a shorter sequence spells it or it is none. -/
def sequence (more least start : Nat) (rest : List Octet) : Option (Char × Nat) :=
  (continued more start rest).bind fun value =>
    if least ≤ value ∧ value.isValidChar then some (Char.ofNat value, more) else none

def characterAt : List Octet → Option (Char × Nat)
  | [] => none
  | .char c :: _ => some (c, 0)
  | .byte first :: rest =>
      if first < 128 then some (Char.ofNat first, 0)
      else if first < 192 then none
      else if first < 224 then sequence 1 128 (first - 192) rest
      else if first < 240 then sequence 2 2048 (first - 224) rest
      else if first < 248 then sequence 3 65536 (first - 240) rest
      else none

/-- `bytes.decode("utf-8", "strict")`; `none` is a `UnicodeDecodeError`, and `skip` bytes belong to the last character. -/
def decodeOctets : Nat → List Octet → Option (List Char)
  | _, [] => some []
  | skip + 1, _ :: rest => decodeOctets skip rest
  | 0, octet :: rest =>
      (characterAt (octet :: rest)).bind fun found => (decodeOctets found.2 rest).map (found.1 :: ·)

def unquote (text : String) : Option String := (decodeOctets 0 (octets 0 text.toList)).map String.ofList

def unquoteTimes : Nat → String → Option String
  | 0, text => some text
  | rounds + 1, text => (unquote text).bind (unquoteTimes rounds)

/-- A `%` with two hexadecimal digits stands somewhere. -/
def hasEscape : List Char → Bool
  | [] => false
  | c :: rest => (escapeAt (c :: rest)).isSome || hasEscape rest

example : unquote "/caf%C3%A9/%2541" = some "/café/%41" ∧ unquote "%E9" = none := by decide +kernel

theorem octets_plain {text : List Char} (plain : hasEscape text = false) : octets 0 text = text.map octetOf := by
  induction text with
  | nil => rfl
  | cons c rest ih =>
    rw [hasEscape, Bool.or_eq_false_iff, Option.isSome_eq_false_iff, Option.isNone_iff_eq_none] at plain
    rw [octets, plain.1]
    simp only [ih plain.2, List.map_cons]

theorem characterAt_octetOf (c : Char) (rest : List Octet) : characterAt (octetOf c :: rest) = some (c, 0) := by
  unfold octetOf
  split
  · next ascii =>
    rw [characterAt, if_pos ascii]
    simp
  · rfl

theorem decodeOctets_plain (text : List Char) : decodeOctets 0 (text.map octetOf) = some text := by
  induction text with
  | nil => rfl
  | cons c rest ih =>
    rw [List.map_cons, decodeOctets, characterAt_octetOf]
    simp [ih]

theorem octets_length (skip : Nat) (text : List Char) : (octets skip text).length ≤ text.length - skip := by
  induction text generalizing skip with
  | nil => simp [octets]
  | cons c rest ih =>
    cases skip with
    | succ skip =>
      have shorter := ih skip
      rw [octets, List.length_cons]
      omega
    | zero =>
      rw [octets]
      split
      · have shorter := ih 2
        simp only [List.length_cons]
        omega
      · have shorter := ih 0
        simp only [List.length_cons]
        omega

theorem octets_shorter {text : List Char} (escaped : hasEscape text = true) : (octets 0 text).length < text.length := by
  induction text with
  | nil => cases escaped
  | cons c rest ih =>
    rw [octets]
    split
    · next value found =>
      have shorter := octets_length 2 rest
      have more : rest ≠ [] := by
        rintro rfl
        cases found
      have present := List.length_pos_of_ne_nil more
      simp only [List.length_cons]
      omega
    · next none =>
      rw [hasEscape, none] at escaped
      have shorter := ih (by simpa using escaped)
      simp only [List.length_cons]
      omega

theorem decodeOctets_length {skip : Nat} {octets : List Octet} {text : List Char}
    (decoded : decodeOctets skip octets = some text) : text.length ≤ octets.length := by
  induction octets generalizing skip text with
  | nil =>
    rw [decodeOctets] at decoded
    cases decoded
    exact le_rfl
  | cons octet rest ih =>
    rw [List.length_cons]
    cases skip with
    | succ skip =>
      have shorter := ih (by simpa only [decodeOctets] using decoded)
      omega
    | zero =>
      rw [decodeOctets] at decoded
      obtain ⟨found, -, rest_decoded⟩ := Option.bind_eq_some_iff.mp decoded
      obtain ⟨tail, later, rfl⟩ := Option.map_eq_some_iff.mp rest_decoded
      have shorter := ih later
      simp only [List.length_cons]
      omega

theorem unquote_eq_self {text : String} : unquote text = some text ↔ hasEscape text.toList = false := by
  constructor
  · intro same
    by_contra escaped
    obtain ⟨decoded, found, spelled⟩ := Option.map_eq_some_iff.mp same
    have shorter := octets_shorter (by simpa using escaped : hasEscape text.toList = true)
    have most := decodeOctets_length found
    have spelled_length : text.toList.length = decoded.length := by rw [← spelled, String.toList_ofList]
    omega
  · intro plain
    rw [unquote, octets_plain plain, decodeOctets_plain, Option.map_some, String.ofList_toList]

theorem unquoteTimes_plain {text : String} (plain : hasEscape text.toList = false) (rounds : Nat) :
    unquoteTimes rounds text = some text := by
  induction rounds with
  | zero => rfl
  | succ rounds ih => rw [unquoteTimes, unquote_eq_self.mpr plain, Option.bind_some, ih]

end Python
