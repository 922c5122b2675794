import Mathlib.Tactic.IntervalCases
import Operly.Python.Separated
import Operly.Python.Values

/-! Scalars as text: `str` and `json.dumps(ensure_ascii=False)` write different scalars differently. -/

namespace Python

theorem repr_nat_inj {first second : Nat} (same : first.repr = second.repr) : first = second := by
  have digits : Nat.toDigits 10 first = Nat.toDigits 10 second := by
    simpa using congrArg String.toList same
  have read := congrArg (fun text => Nat.ofDigitChars 10 text 0) digits
  simpa using read

theorem isDigit_of_mem_repr {n : Nat} {c : Char} (member : c ∈ n.repr.toList) : c.isDigit = true := by
  rw [Nat.toList_repr] at member
  exact Nat.isDigit_of_mem_toDigits (by decide) (by decide) member

theorem toString_int_inj {first second : Int} (same : toString first = toString second) : first = second := by
  have unsigned : ∀ n m : Nat, n.repr ≠ "-" ++ m.repr := by
    intro n m equal
    have minus : '-' ∈ n.repr.toList := by simp [equal]
    exact absurd (isDigit_of_mem_repr minus) (by decide)
  cases first with
  | ofNat n =>
    cases second with
    | ofNat m => exact congrArg Int.ofNat (repr_nat_inj same)
    | negSucc m => exact absurd same (unsigned n _)
  | negSucc n =>
    cases second with
    | ofNat m => exact absurd same.symm (unsigned m _)
    | negSucc m =>
      have digits : (n + 1).repr = (m + 1).repr := by
        have written : "-" ++ (n + 1).repr = "-" ++ (m + 1).repr := same
        have lists : "-".toList ++ (n + 1).repr.toList = "-".toList ++ (m + 1).repr.toList := by
          rw [← String.toList_append, ← String.toList_append, written]
        exact String.toList_inj.mp (List.append_cancel_left lists)
      have equal := repr_nat_inj digits
      rw [Nat.add_right_cancel equal]

theorem mem_toString_int {number : Int} {c : Char} (member : c ∈ (toString number).toList) :
    c = '-' ∨ c.isDigit = true := by
  cases number with
  | ofNat n => exact .inr (isDigit_of_mem_repr member)
  | negSucc n =>
    have split : c ∈ ("-" ++ (n + 1).repr).toList := member
    rw [String.toList_append, List.mem_append] at split
    rcases split with sign | digits
    · exact .inl (by simpa using sign)
    · exact .inr (isDigit_of_mem_repr digits)

/-! ### Floats -/

/-- `float.__repr__`: its characters, and that it tells floats apart from each other and from
integers. -/
structure FloatRepr extends Rendering where
  characters : ∀ value, ∀ c ∈ (float value).toList, c ∈ "+-.0123456789aefin".toList
  apart : ∀ {first second}, float first = float second → first = second
  notInteger : ∀ value (number : Int), float value ≠ toString number

def shownRational (value : Rat) : String :=
  toString value.num ++ "." ++ (if value.den = 1 then "0" else value.den.repr)

def fractionText : Double → String
  | .finite value => shownRational value
  | .negativeZero => "-0.0"
  | .infinity negative => if negative then "-inf" else "inf"
  | .nan => "nan"

theorem mem_shownRational {value : Rat} {c : Char} (member : c ∈ (shownRational value).toList) :
    c = '-' ∨ c = '.' ∨ c.isDigit = true := by
  simp only [shownRational, String.toList_append, List.mem_append] at member
  rcases member with (whole | point) | part
  · rcases mem_toString_int whole with sign | digit
    · exact .inl sign
    · exact .inr (.inr digit)
  · exact .inr (.inl (by simpa using point))
  · split at part
    · exact .inr (.inr (by rw [show c = '0' by simpa using part]; decide))
    · exact .inr (.inr (isDigit_of_mem_repr part))

theorem pointed_shownRational (value : Rat) : '.' ∈ (shownRational value).toList := by
  simp [shownRational]

theorem notMem_denominator (value : Rat) : '.' ∉ (if value.den = 1 then "0" else value.den.repr).toList := by
  intro member
  split at member
  · exact absurd member (by decide)
  · exact absurd (isDigit_of_mem_repr member) (by decide)

theorem shownRational_inj {first second : Rat} (same : shownRational first = shownRational second) :
    first = second := by
  obtain ⟨whole, part⟩ := (join_eq_join_of_notMem (c := '.') (by rfl) (notMem_denominator first)
    (notMem_denominator second)).mp same
  have positive : ∀ value : Rat, "0" ≠ value.den.repr := by
    intro value zero
    have digits : (0 : Nat).repr = value.den.repr := zero
    exact value.den_nz (repr_nat_inj digits).symm
  apply Rat.ext (toString_int_inj whole)
  split at part <;> split at part
  · next one other => rw [one, other]
  · exact absurd part (positive second)
  · exact absurd part.symm (positive first)
  · exact repr_nat_inj part

theorem shownRational_ne_negativeZero (value : Rat) : shownRational value ≠ "-0.0" := by
  intro same
  have parts : toString value.num ++ "." ++ (if value.den = 1 then "0" else value.den.repr) =
      "-0" ++ "." ++ "0" := same
  have whole := ((join_eq_join_of_notMem (c := '.') (by rfl) (notMem_denominator value) (by decide)).mp parts).1
  cases number : value.num with
  | ofNat n =>
    have digits : n.repr = "-0" := by
      rw [number] at whole
      exact whole
    have sign : '-' ∈ n.repr.toList := by simp [digits]
    exact absurd (isDigit_of_mem_repr sign) (by decide)
  | negSucc n =>
    have written : "-" ++ (n + 1).repr = "-" ++ (0 : Nat).repr := by
      rw [number] at whole
      exact whole
    have digits := repr_nat_inj (String.append_right_inj "-" |>.mp written)
    omega

def fractionRepr : FloatRepr where
  float := fractionText
  container _ := ""
  shown value := by
    cases value with
    | finite value =>
      intro empty
      have member := pointed_shownRational value
      rw [show shownRational value = "" from empty] at member
      cases member
    | negativeZero => decide
    | infinity negative => cases negative <;> decide
    | nan => decide
  characters value c member := by
    cases value with
    | finite value =>
      rcases mem_shownRational member with rfl | rfl | digit
      · decide
      · decide
      · have listed : ∀ n < 58, 48 ≤ n → Char.ofNat n ∈ "+-.0123456789aefin".toList := by decide
        simp only [Char.isDigit, Bool.and_eq_true, decide_eq_true_eq, UInt32.le_iff_toNat_le] at digit
        simpa using listed c.toNat (Nat.lt_succ_of_le digit.2) digit.1
    | negativeZero => revert c; decide
    | infinity negative => cases negative <;> revert c <;> decide
    | nan => revert c; decide
  apart {first second} same := by
    have pointed : ∀ (value : Rat) {text : String}, '.' ∉ text.toList → shownRational value ≠ text := by
      intro value text plain equal
      exact plain (equal ▸ pointed_shownRational value)
    cases first with
    | finite x =>
      cases second with
      | finite y => rw [shownRational_inj same]
      | negativeZero => exact absurd same (shownRational_ne_negativeZero x)
      | infinity sign => exact absurd same (pointed x (by cases sign <;> decide))
      | nan => exact absurd same (pointed x (by decide))
    | negativeZero =>
      cases second with
      | finite y => exact absurd same.symm (shownRational_ne_negativeZero y)
      | negativeZero => rfl
      | infinity sign => cases sign <;> exact absurd same (by decide)
      | nan => exact absurd same (by decide)
    | infinity sign =>
      cases second with
      | finite y => exact absurd same.symm (pointed y (by cases sign <;> decide))
      | negativeZero => cases sign <;> exact absurd same (by decide)
      | infinity other => cases sign <;> cases other <;> first | rfl | exact absurd same (by decide)
      | nan => cases sign <;> exact absurd same (by decide)
    | nan =>
      cases second with
      | finite y => exact absurd same.symm (pointed y (by decide))
      | negativeZero => exact absurd same (by decide)
      | infinity sign => cases sign <;> exact absurd same (by decide)
      | nan => rfl
  notInteger value number same := by
    have digits : ∀ c ∈ (fractionText value).toList, c = '-' ∨ c.isDigit = true := by
      intro c member
      rw [show fractionText value = toString number from same] at member
      exact mem_toString_int member
    cases value with
    | finite value => exact absurd (digits '.' (pointed_shownRational value)) (by decide)
    | negativeZero => exact absurd (digits '.' (by decide)) (by decide)
    | infinity sign => cases sign <;> exact absurd (digits 'i' (by decide)) (by decide)
    | nan => exact absurd (digits 'n' (by decide)) (by decide)

/-! ### Texts -/

def plainChar (c : Char) : List Char :=
  if c = '"' then ['\\', '"']
  else if c = '\\' then ['\\', '\\']
  else if c = '\n' then ['\\', 'n']
  else if c = '\r' then ['\\', 'r']
  else if c = '\t' then ['\\', 't']
  else if c.toNat = 8 then ['\\', 'b']
  else if c.toNat = 12 then ['\\', 'f']
  else if c.toNat < 32 then escapeUnit c.toNat
  else [c]

def plainQuoted (text : String) : String :=
  "\"" ++ String.ofList (text.toList.flatMap plainChar) ++ "\""

def hexValue (c : Char) : Nat := if c.toNat < 97 then c.toNat - 48 else c.toNat - 87

def readChar : List Char → Option (Char × List Char)
  | '\\' :: 'u' :: _ :: _ :: a :: b :: rest => some (Char.ofNat (16 * hexValue a + hexValue b), rest)
  | '\\' :: 'n' :: rest => some ('\n', rest)
  | '\\' :: 'r' :: rest => some ('\r', rest)
  | '\\' :: 't' :: rest => some ('\t', rest)
  | '\\' :: 'b' :: rest => some (Char.ofNat 8, rest)
  | '\\' :: 'f' :: rest => some (Char.ofNat 12, rest)
  | '\\' :: c :: rest => some (c, rest)
  | c :: rest => some (c, rest)
  | [] => none

theorem plainChar_printable {c : Char} (printable : 32 ≤ c.toNat) :
    c = '"' ∨ c = '\\' ∨ c ≠ '\\' ∧ plainChar c = [c] := by
  have apart : c ≠ '\n' ∧ c ≠ '\r' ∧ c ≠ '\t' ∧ c.toNat ≠ 8 ∧ c.toNat ≠ 12 ∧ ¬ c.toNat < 32 := by
    refine ⟨?_, ?_, ?_, by omega, by omega, by omega⟩ <;> intro same <;>
      exact absurd (same ▸ printable) (by decide)
  obtain ⟨line, carriage, tab, backspace, feed, control⟩ := apart
  by_cases quote : c = '"'
  · exact .inl quote
  · by_cases backslash : c = '\\'
    · exact .inr (.inl backslash)
    · refine .inr (.inr ⟨backslash, ?_⟩)
      rw [plainChar, if_neg quote, if_neg backslash, if_neg line, if_neg carriage, if_neg tab,
        if_neg backspace, if_neg feed, if_neg control]

theorem readChar_plainChar (c : Char) (rest : List Char) : readChar (plainChar c ++ rest) = some (c, rest) := by
  by_cases control : c.toNat < 32
  · -- one escape for each control character
    have written : ∀ n < 32, readChar (plainChar (Char.ofNat n) ++ rest) = some (Char.ofNat n, rest) := by
      intro n small
      interval_cases n <;> rfl
    simpa using written c.toNat control
  · rcases plainChar_printable (not_lt.mp control) with rfl | rfl | ⟨plain, itself⟩
    · rfl
    · rfl
    · rw [itself, List.singleton_append]
      unfold readChar
      split <;> simp_all

theorem plainChars_inj {first second : List Char}
    (same : first.flatMap plainChar = second.flatMap plainChar) : first = second := by
  induction first generalizing second with
  | nil =>
    cases second with
    | nil => rfl
    | cons c rest =>
      have read := readChar_plainChar c (rest.flatMap plainChar)
      rw [← List.flatMap_cons, ← same] at read
      cases read
  | cons c rest ih =>
    have read := readChar_plainChar c (rest.flatMap plainChar)
    rw [← List.flatMap_cons, same] at read
    cases second with
    | nil => cases read
    | cons d tail =>
      rw [List.flatMap_cons, readChar_plainChar, Option.some.injEq, Prod.mk.injEq] at read
      obtain ⟨rfl, later⟩ := read
      rw [ih later.symm]

theorem mem_plainChar {c d : Char} (member : d ∈ plainChar c) : 32 ≤ d.toNat := by
  by_cases control : c.toNat < 32
  · have written : ∀ n < 32, ∀ d ∈ plainChar (Char.ofNat n), 32 ≤ d.toNat := by decide
    exact written c.toNat control d (by simpa using member)
  · rcases plainChar_printable (not_lt.mp control) with rfl | rfl | ⟨-, itself⟩
    · have written : ∀ d ∈ plainChar '"', 32 ≤ d.toNat := by decide
      exact written d member
    · have written : ∀ d ∈ plainChar '\\', 32 ≤ d.toNat := by decide
      exact written d member
    · rw [itself, List.mem_singleton] at member
      rw [member]
      exact not_lt.mp control

theorem plainQuoted_inj {first second : String} (same : plainQuoted first = plainQuoted second) : first = second := by
  have lists := congrArg String.toList same
  simp only [plainQuoted, String.toList_append, String.toList_ofList] at lists
  have inner := List.append_cancel_left (List.append_cancel_right lists)
  exact String.toList_inj.mp (plainChars_inj inner)

theorem mem_plainQuoted {text : String} {c : Char} (member : c ∈ (plainQuoted text).toList) : 32 ≤ c.toNat := by
  have mark : 32 ≤ '"'.toNat := by decide
  simp only [plainQuoted, String.toList_append, String.toList_ofList, List.mem_append,
    List.mem_flatMap] at member
  rcases member with (first | ⟨d, _, written⟩) | last
  · rw [show c = '"' by simpa using first]
    exact mark
  · exact mem_plainChar written
  · rw [show c = '"' by simpa using last]
    exact mark

end Python
