import Operly.Python.JsonDecoding
import Operly.Python.JsonText

/-! `json.dumps(value, separators=(",", ":"), ensure_ascii=False)`, and that `json.loads` reads back what it
writes. -/

namespace Python.JsonModule

def quotedPoint : CodePoint → PyText
  | .char c => (plainChar c).map .char
  | .surrogate unit => [.surrogate unit]

def quoted (text : PyText) : PyText := .char '"' :: (text.flatMap quotedPoint ++ [.char '"'])

def floatText (floats : FloatText) : Double → String
  | .nan => "NaN"
  | .infinity negative => if negative then "-Infinity" else "Infinity"
  | value => floats.repr value

def separated : List PyText → PyText
  | [] => []
  | [text] => text
  | text :: rest => text ++ .char ',' :: separated rest

mutual
/-- `json.dumps(value, separators=(",", ":"), ensure_ascii=False)` -/
def dumps (floats : FloatText) : Value → PyText
  | .null => PyText.ofString "null"
  | .bool value => PyText.ofString (if value then "true" else "false")
  | .int value => PyText.ofString (toString value)
  | .float value => PyText.ofString (floatText floats value)
  | .str text => quoted text
  | .arr items => .char '[' :: (separated (dumpsItems floats items) ++ [.char ']'])
  | .obj entries => .char '\x7b' :: (separated (dumpsEntries floats entries) ++ [.char '\x7d'])
def dumpsItems (floats : FloatText) : List Value → List PyText
  | [] => []
  | item :: rest => dumps floats item :: dumpsItems floats rest
def dumpsEntries (floats : FloatText) : Entries → List PyText
  | [] => []
  | (key, value) :: rest => (quoted key ++ .char ':' :: dumps floats value) :: dumpsEntries floats rest
end

theorem dumpsItems_eq (floats : FloatText) (items : List Value) :
    dumpsItems floats items = items.map (dumps floats) := by
  induction items with
  | nil => rfl
  | cons item rest ih => rw [dumpsItems, ih, List.map_cons]

def dumpsEntry (floats : FloatText) (entry : PyText × Value) : PyText :=
  quoted entry.1 ++ .char ':' :: dumps floats entry.2

theorem dumpsEntries_eq (floats : FloatText) (entries : Entries) :
    dumpsEntries floats entries = entries.map (dumpsEntry floats) := by
  induction entries with
  | nil => rfl
  | cons entry rest ih => rw [dumpsEntries, ih, List.map_cons, dumpsEntry]

mutual
/-- What keeps `json.dumps` from writing a value: containers that nest too deeply, and integers that are too
long. -/
def checkDumps : Nat → Value → Except LoadError Unit
  | _, .null | _, .bool _ | _, .float _ | _, .str _ => .ok ()
  | _, .int value => if value.natAbs < 10 ^ maxIntDigits then .ok () else .error .digits
  | 0, .arr _ | 0, .obj _ => .error .recursion
  | depth + 1, .arr items => checkItems depth items
  | depth + 1, .obj entries => checkEntries depth entries
def checkItems : Nat → List Value → Except LoadError Unit
  | _, [] => .ok ()
  | depth, item :: rest => do
      checkDumps depth item
      checkItems depth rest
def checkEntries : Nat → Entries → Except LoadError Unit
  | _, [] => .ok ()
  | depth, (_, value) :: rest => do
      checkDumps depth value
      checkEntries depth rest
end

/-! ### Strings -/

def pieceOf : CodePoint → Piece
  | .char c =>
      if c.toNat < 32 ∧ c.toNat ≠ 8 ∧ c.toNat ≠ 9 ∧ c.toNat ≠ 10 ∧ c.toNat ≠ 12 ∧ c.toNat ≠ 13 then .escaped c.toNat
      else .point (.char c)
  | .surrogate unit => .point (.surrogate unit)

theorem scanPieces_point {point : CodePoint} (visible : 32 ≤ point.value) (noQuote : point ≠ .char '"')
    (noBackslash : point ≠ .char '\\') (rest : PyText) :
    scanPieces (point :: rest) = (scanPieces rest).map fun later => (.point point :: later.1, later.2) := by
  rw [scanPieces.eq_def]
  split
  · next same => exact absurd (List.cons.inj same).1 noQuote
  · next same => exact absurd (List.cons.inj same).1 noBackslash
  · next same => exact absurd (List.cons.inj same).1 noBackslash
  · next same => exact absurd (List.cons.inj same).1 noBackslash
  · next same =>
    obtain ⟨rfl, rfl⟩ := List.cons.inj same
    rw [if_neg (not_lt.mpr visible)]
    cases scanPieces rest <;> rfl
  · next same => cases same

theorem scanPieces_escape {c point : Char} (simple : simpleEscape? c = some point) (rest : PyText) :
    scanPieces (.char '\\' :: .char c :: rest) =
      (scanPieces rest).map fun later => (.point (.char point) :: later.1, later.2) := by
  have letter : c ≠ 'u' := by
    intro same
    rw [same] at simple
    cases simple
  rw [scanPieces.eq_def]
  split
  · next same => cases same
  · next same => exact absurd (CodePoint.char.inj (List.cons.inj (List.cons.inj same).2).1) letter
  · next same =>
    cases same
    rw [simple]
    cases scanPieces rest <;> rfl
  · next other same => exact absurd (List.cons.inj same).2.symm (other c rest)
  · next other same => exact absurd (List.cons.inj same).1.symm other
  · next same => cases same

theorem scanPieces_unit {a b c d : CodePoint} {unit : Nat} (escaped : escapedUnit? a b c d = some unit)
    (rest : PyText) : scanPieces (.char '\\' :: .char 'u' :: a :: b :: c :: d :: rest) =
      (scanPieces rest).map fun later => (.escaped unit :: later.1, later.2) := by
  rw [scanPieces, escaped]
  cases scanPieces rest <;> rfl

theorem scanPieces_quotedPoint (point : CodePoint) (rest : PyText) :
    scanPieces (quotedPoint point ++ rest) =
      (scanPieces rest).map fun later => (pieceOf point :: later.1, later.2) := by
  cases point with
  | surrogate unit =>
    exact scanPieces_point (by simp only [CodePoint.value]; omega) (by simp) (by simp) rest
  | char c =>
    by_cases control : c.toNat < 32
    · -- one escape for each control character
      have written : ∀ n < 32, scanPieces (quotedPoint (.char (Char.ofNat n)) ++ rest) =
          (scanPieces rest).map fun later => (pieceOf (.char (Char.ofNat n)) :: later.1, later.2) := by
        intro n small
        interval_cases n <;>
          first | exact scanPieces_escape (by decide) rest | exact scanPieces_unit (by decide) rest
      simpa using written c.toNat control
    · have visible := not_lt.mp control
      have piece : pieceOf (.char c) = .point (.char c) := by
        rw [pieceOf, if_neg]
        exact fun small => control small.1
      rw [piece]
      rcases plainChar_printable visible with same | same | ⟨plain, itself⟩
      · rw [same]
        exact scanPieces_escape (by decide) rest
      · rw [same]
        exact scanPieces_escape (by decide) rest
      · have noQuote : c ≠ '"' := by
          intro same
          rw [same] at itself
          exact absurd itself (by decide)
        rw [quotedPoint, itself]
        exact @scanPieces_point (.char c) visible (by simpa using noQuote) (by simpa using plain) rest

theorem join_pieceOf (point : CodePoint) (pieces : List Piece) :
    join (pieceOf point :: pieces) = point :: join pieces := by
  cases point with
  | surrogate unit => rfl
  | char c =>
    rw [pieceOf]
    split
    · next control =>
      have small : c.toNat < 0xD800 := by omega
      have itself : ofUnit c.toNat = .char c := by
        rw [ofUnit, CodePoint.ofNat?, if_neg (by omega), if_pos (by omega), Option.getD_some, Char.ofNat_toNat]
      have low : isHigh c.toNat = false := by
        simp only [isHigh, Bool.and_eq_false_iff, decide_eq_false_iff_not]
        omega
      rw [join.eq_def]
      split
      · next same => cases same
      · next same => cases same
      · next same =>
        obtain ⟨unit, later⟩ := List.cons.inj same
        cases unit
        rw [low, Bool.false_and, if_neg (by decide), itself, later]
      · next other same =>
        obtain ⟨unit, later⟩ := List.cons.inj same
        cases unit
        rw [itself, later]
    · rfl

theorem scanPieces_quoted (text tail : PyText) :
    scanPieces (text.flatMap quotedPoint ++ .char '"' :: tail) = some (text.map pieceOf, tail) := by
  induction text with
  | nil => rfl
  | cons point rest ih =>
    rw [List.flatMap_cons, List.append_assoc, scanPieces_quotedPoint, ih, Option.map_some, List.map_cons]

theorem scanString_quoted (text tail : PyText) :
    scanString (text.flatMap quotedPoint ++ .char '"' :: tail) = .ok (text, tail) := by
  have joined : join (text.map pieceOf) = text := by
    induction text with
    | nil => rfl
    | cons point rest ih => rw [List.map_cons, join_pieceOf, ih]
  rw [scanString, scanPieces_quoted]
  simp only [joined]

/-! ### Numbers -/

def Avoids (kind : Char → Bool) (text : PyText) : Prop := ∀ c rest, text = .char c :: rest → kind c = false

def numeric (c : Char) : Bool := c.isDigit || c = '.' || c = 'e' || c = 'E'

theorem avoids_cons {kind : Char → Bool} {c : Char} (other : kind c = false) (rest : PyText) :
    Avoids kind (.char c :: rest) := by
  intro d tail same
  cases same
  exact other

theorem avoids_digits {tail : PyText} (clear : Avoids numeric tail) : Avoids Char.isDigit tail := by
  intro c rest same
  have other := clear c rest same
  simp only [numeric, Bool.or_eq_false_iff] at other
  exact other.1.1.1

theorem spanDigits_digits {digits : List Char} {tail : PyText} (all : ∀ c ∈ digits, c.isDigit = true)
    (clear : Avoids Char.isDigit tail) : spanDigits (digits.map .char ++ tail) = (digits, tail) := by
  induction digits with
  | nil =>
    rw [List.map_nil, List.nil_append, spanDigits.eq_def]
    split
    · next c rest => rw [if_neg (by simp [clear c rest rfl])]
    · rfl
  | cons c rest ih =>
    rw [List.map_cons, List.cons_append, spanDigits, if_pos (all c List.mem_cons_self),
      ih fun d member => all d (List.mem_cons_of_mem c member)]

theorem scanSign_sign {sign : List Char} (signed : sign = [] ∨ sign = ['-']) {c : Char} (digit : c.isDigit = true)
    (tail : PyText) : scanSign (sign.map .char ++ .char c :: tail) = (sign, .char c :: tail) := by
  rcases signed with rfl | rfl
  · rw [List.map_nil, List.nil_append, scanSign.eq_def]
    split
    · next same =>
      cases same
      exact absurd digit (by decide)
    · rfl
  · rfl

theorem scanWhole_whole {whole : List Char} {tail : PyText} (counted : Whole whole)
    (clear : Avoids Char.isDigit tail) : scanWhole (whole.map .char ++ tail) = some (whole, tail) := by
  rcases counted with rfl | ⟨⟨nonempty, all⟩, leading⟩
  · rfl
  · rw [scanWhole.eq_def]
    split
    · next rest shape =>
      cases whole with
      | nil => exact absurd rfl nonempty
      | cons c digits =>
        rw [List.map_cons, List.cons_append] at shape
        cases shape
        exact absurd rfl leading
    · rw [spanDigits_digits all clear, if_neg nonempty]

theorem digit_of_whole {whole : List Char} (counted : Whole whole) :
    ∃ c rest, whole = c :: rest ∧ c.isDigit = true := by
  rcases counted with rfl | ⟨⟨nonempty, all⟩, -⟩
  · exact ⟨'0', [], rfl, by decide⟩
  · cases whole with
    | nil => exact absurd rfl nonempty
    | cons c rest => exact ⟨c, rest, rfl, all c List.mem_cons_self⟩

theorem scanFraction_nil {tail : PyText} (clear : Avoids (· = '.') tail) : scanFraction tail = ([], tail) := by
  rw [scanFraction.eq_def]
  split
  · next rest => exact absurd (clear '.' rest rfl) (by decide)
  · rfl

theorem scanFraction_digits {digits : List Char} {tail : PyText} (counted : Digits digits)
    (clear : Avoids Char.isDigit tail) :
    scanFraction (('.' :: digits).map .char ++ tail) = ('.' :: digits, tail) := by
  rw [List.map_cons, List.cons_append, scanFraction, spanDigits_digits counted.2 clear, if_neg counted.1]

theorem scanExponentSign_sign {sign digits : List Char} (signed : sign = [] ∨ sign = ['+'] ∨ sign = ['-'])
    (counted : Digits digits) (tail : PyText) :
    scanExponentSign (sign.map .char ++ (digits.map .char ++ tail)) = (sign, digits.map .char ++ tail) := by
  rcases signed with rfl | rfl | rfl
  · cases digits with
    | nil => exact absurd rfl counted.1
    | cons c rest =>
      have digit := counted.2 c List.mem_cons_self
      rw [List.map_nil, List.nil_append, List.map_cons, List.cons_append, scanExponentSign.eq_def]
      split
      · next same =>
        cases same
        exact absurd digit (by decide)
      · next same =>
        cases same
        exact absurd digit (by decide)
      · rfl
  · rfl
  · rfl

theorem scanExponent_nil {tail : PyText} (clear : Avoids (fun c => c = 'e' || c = 'E') tail) :
    scanExponent tail = ([], tail) := by
  rw [scanExponent.eq_def]
  split
  · next c rest =>
    have other := clear c rest rfl
    simp only [Bool.or_eq_false_iff, decide_eq_false_iff_not] at other
    simp only
    rw [if_neg]
    rintro ⟨mark | mark, -⟩
    · exact other.1 mark
    · exact other.2 mark
  · rfl

theorem scanExponent_digits {mark : Char} {sign digits : List Char} {tail : PyText} (marked : mark = 'e' ∨ mark = 'E')
    (signed : sign = [] ∨ sign = ['+'] ∨ sign = ['-']) (counted : Digits digits) (clear : Avoids Char.isDigit tail) :
    scanExponent ((mark :: (sign ++ digits)).map .char ++ tail) = (mark :: (sign ++ digits), tail) := by
  have split : (mark :: (sign ++ digits)).map CodePoint.char ++ tail =
      .char mark :: (sign.map .char ++ (digits.map .char ++ tail)) := by
    rw [List.map_cons, List.map_append, List.cons_append, List.append_assoc]
  rw [split, scanExponent, scanExponentSign_sign signed counted]
  simp only [spanDigits_digits counted.2 clear]
  rw [if_pos ⟨marked, counted.1⟩]

theorem scanNumber_parts {floats : FloatText} {sign whole fraction exponent : List Char} {tail : PyText}
    (signed : sign = [] ∨ sign = ['-']) (counted : Whole whole) (pointed : Fraction fraction)
    (raised : Exponent exponent) (clear : Avoids numeric tail) :
    scanNumber floats ((sign ++ whole ++ fraction ++ exponent).map .char ++ tail) =
      some (if fraction = [] ∧ exponent = [] then
          if maxIntDigits < whole.length then .error .digits
          else
            let magnitude : Int := Nat.ofDigitChars 10 whole 0
            .ok (.int (if sign = [] then magnitude else -magnitude), tail)
        else .ok (.float (floats.read (sign ++ whole ++ fraction ++ exponent)), tail)) := by
  have digits := avoids_digits clear
  -- what follows the digits is no digit
  have afterExponent : scanExponent (exponent.map .char ++ tail) = (exponent, tail) := by
    rcases raised with rfl | ⟨mark, sign, digits', marked, signed, counted, rfl⟩
    · apply scanExponent_nil
      intro c rest same
      have other := clear c rest same
      simp only [numeric, Bool.or_eq_false_iff] at other ⊢
      exact ⟨other.1.2, other.2⟩
    · exact scanExponent_digits marked signed counted digits
  have beforeExponent : ∀ kind : Char → Bool, kind 'e' = false → kind 'E' = false → Avoids kind tail →
      Avoids kind (exponent.map .char ++ tail) := by
    intro kind small capital later
    rcases raised with rfl | ⟨mark, sign, digits', rfl | rfl, -, -, rfl⟩
    · exact later
    · exact avoids_cons small _
    · exact avoids_cons capital _
  have exponentDigits := beforeExponent Char.isDigit (by decide) (by decide) digits
  have afterFraction : scanFraction (fraction.map .char ++ (exponent.map .char ++ tail)) =
      (fraction, exponent.map .char ++ tail) := by
    rcases pointed with rfl | ⟨digits', counted, rfl⟩
    · apply scanFraction_nil
      apply beforeExponent (· = '.') (by decide) (by decide)
      intro c rest same
      have other := clear c rest same
      simp only [numeric, Bool.or_eq_false_iff] at other
      exact other.1.1.2
    · exact scanFraction_digits counted exponentDigits
  have afterWhole : scanWhole (whole.map .char ++ (fraction.map .char ++ (exponent.map .char ++ tail))) =
      some (whole, fraction.map .char ++ (exponent.map .char ++ tail)) := by
    apply scanWhole_whole counted
    rcases pointed with rfl | ⟨digits', -, rfl⟩
    · exact exponentDigits
    · exact avoids_cons (by decide) _
  obtain ⟨c, rest, same, digit⟩ := digit_of_whole counted
  have afterSign : scanSign (sign.map .char ++ (whole.map .char ++ (fraction.map .char ++
      (exponent.map .char ++ tail)))) =
        (sign, whole.map .char ++ (fraction.map .char ++ (exponent.map .char ++ tail))) := by
    rw [same, List.map_cons, List.cons_append]
    exact scanSign_sign signed digit _
  simp only [scanNumber, List.map_append, List.append_assoc, afterSign, afterWhole, Option.map_some, afterFraction,
    afterExponent]

theorem head_toDigits {n : Nat} (positive : 0 < n) : (Nat.toDigits 10 n).head? ≠ some '0' := by
  induction n using Nat.strong_induction_on with
  | _ n ih =>
    by_cases small : n < 10
    · rw [Nat.toDigits_of_lt_base small]
      have digits : ∀ m < 10, 0 < m → [m.digitChar].head? ≠ some '0' := by decide
      exact digits n small positive
    · rw [Nat.toDigits_of_base_le (by decide) (by omega), List.head?_append]
      have smaller := ih (n / 10) (by omega) (by omega)
      cases shape : (Nat.toDigits 10 (n / 10)).head? with
      | none => exact absurd (List.head?_eq_none_iff.mp shape) Nat.toDigits_ne_nil
      | some c =>
        rw [shape] at smaller
        exact smaller

theorem whole_toDigits (n : Nat) : Whole (Nat.toDigits 10 n) := by
  rcases Nat.eq_zero_or_pos n with rfl | positive
  · exact .inl (Nat.toDigits_zero 10)
  · exact .inr ⟨⟨Nat.toDigits_ne_nil, fun c member => Nat.isDigit_of_mem_toDigits (by decide) (by decide) member⟩,
      head_toDigits positive⟩

theorem length_toDigits_le {n : Nat} (sized : n < 10 ^ maxIntDigits) : (Nat.toDigits 10 n).length ≤ maxIntDigits :=
  (Nat.length_toDigits_le_iff (by decide) (by decide)).mpr sized

theorem scanNumber_toDigits {floats : FloatText} {sign : List Char} (signed : sign = [] ∨ sign = ['-']) {n : Nat}
    (sized : n < 10 ^ maxIntDigits) {tail : PyText} (clear : Avoids numeric tail) :
    scanNumber floats ((sign ++ Nat.toDigits 10 n).map .char ++ tail) =
      some (.ok (.int (if sign = [] then n else -n), tail)) := by
  have read := @scanNumber_parts floats _ _ _ _ _ signed (whole_toDigits n) (.inl rfl) (.inl rfl) clear
  rw [List.append_nil, List.append_nil] at read
  rw [read, if_pos ⟨rfl, rfl⟩, if_neg (not_lt.mpr (length_toDigits_le sized))]
  simp only [Nat.ofDigitChars_ten_toDigits]

theorem scanNumber_int {floats : FloatText} {value : Int} (sized : value.natAbs < 10 ^ maxIntDigits) {tail : PyText}
    (clear : Avoids numeric tail) :
    scanNumber floats (PyText.ofString (toString value) ++ tail) = some (.ok (.int value, tail)) := by
  cases value with
  | ofNat n =>
    have written : PyText.ofString (toString (Int.ofNat n)) = ([] ++ Nat.toDigits 10 n).map .char := by
      rw [List.nil_append, ← Nat.toList_repr]
      rfl
    rw [written, scanNumber_toDigits (n := n) (.inl rfl) sized clear]
    rfl
  | negSucc n =>
    have written : PyText.ofString (toString (Int.negSucc n)) = (['-'] ++ Nat.toDigits 10 (n + 1)).map .char := by
      rw [← Nat.toList_repr]
      have text : toString (Int.negSucc n) = "-" ++ (n + 1).repr := rfl
      rw [PyText.ofString, text, String.toList_append]
      rfl
    rw [written, scanNumber_toDigits (n := n + 1) (.inr rfl) sized clear]
    rfl

theorem scanNumber_float {floats : FloatText} {value : Double} (held : floats.Held value)
    (finite : value.isFinite = true) {tail : PyText} (clear : Avoids numeric tail) :
    scanNumber floats (PyText.ofString (floats.repr value) ++ tail) = some (.ok (.float value, tail)) := by
  obtain ⟨literal, rfl⟩ := held finite
  obtain ⟨parts, written⟩ := floats.literal literal finite
  have again := floats.again literal finite
  rw [written] at again
  rw [PyText.ofString, written, FloatParts.text,
    scanNumber_parts parts.signed parts.counted parts.pointed parts.raised clear, if_neg]
  · rw [← FloatParts.text, again]
  · rintro ⟨noFraction, noExponent⟩
    exact parts.marked.elim (· noFraction) (· noExponent)

/-! ### Values -/

def Boundary (tail : PyText) : Prop := ∀ c rest, tail = .char c :: rest → c = ',' ∨ c = ']' ∨ c = '\x7d'

theorem boundary_cons {c : Char} (mark : c = ',' ∨ c = ']' ∨ c = '\x7d') (rest : PyText) :
    Boundary (.char c :: rest) := by
  intro d tail same
  cases same
  exact mark

theorem Boundary.numeric {tail : PyText} (boundary : Boundary tail) : Avoids numeric tail := by
  intro c rest same
  rcases boundary c rest same with rfl | rfl | rfl <;> decide

def opening : List Char := "ntfNI-0123456789\"[\x7b".toList

theorem opening_of_isDigit {c : Char} (digit : c.isDigit = true) : c ∈ opening := by
  have listed : ∀ n < 58, 48 ≤ n → Char.ofNat n ∈ opening := by decide
  simp only [Char.isDigit, Bool.and_eq_true, decide_eq_true_eq, UInt32.le_iff_toNat_le] at digit
  simpa using listed c.toNat (Nat.lt_succ_of_le digit.2) digit.1

def Opens (text : PyText) : Prop := ∃ c rest, text = .char c :: rest ∧ c ∈ opening

theorem opens_number {sign whole : List Char} (signed : sign = [] ∨ sign = ['-']) (counted : Whole whole)
    (rest : List Char) : Opens ((sign ++ whole ++ rest).map .char) := by
  obtain ⟨c, digits, same, digit⟩ := digit_of_whole counted
  rcases signed with rfl | rfl
  · exact ⟨c, (digits ++ rest).map .char, by rw [same]; rfl, opening_of_isDigit digit⟩
  · exact ⟨'-', (whole ++ rest).map .char, rfl, by decide⟩

theorem floatText_of_finite {floats : FloatText} {value : Double} (finite : value.isFinite = true) :
    floatText floats value = floats.repr value := by
  cases value with
  | finite value => rfl
  | negativeZero => rfl
  | infinity negative => cases finite
  | nan => cases finite

theorem dumps_opens {floats : FloatText} {depth : Nat} {value : Value} (formed : WellFormed floats depth value) :
    Opens (dumps floats value) := by
  cases formed with
  | null => exact ⟨'n', _, rfl, by decide⟩
  | bool value => cases value <;> exact ⟨_, _, rfl, by decide⟩
  | @int _ value sized =>
    rw [dumps]
    cases value with
    | ofNat n =>
      have opens := opens_number (.inl rfl) (whole_toDigits n) []
      rw [List.append_nil, List.nil_append, ← Nat.toList_repr] at opens
      exact opens
    | negSucc n => exact ⟨'-', (n + 1).repr.toList.map .char, by
        rw [PyText.ofString, show toString (Int.negSucc n) = "-" ++ (n + 1).repr from rfl, String.toList_append]
        rfl, by decide⟩
  | @float _ value held =>
    rw [dumps]
    by_cases finite : value.isFinite = true
    · obtain ⟨literal, rfl⟩ := held finite
      obtain ⟨parts, written⟩ := floats.literal literal finite
      rw [floatText_of_finite finite, PyText.ofString, written, FloatParts.text, List.append_assoc]
      exact opens_number parts.signed parts.counted _
    · cases value with
      | finite value => exact absurd rfl finite
      | negativeZero => exact absurd rfl finite
      | infinity negative =>
        cases negative
        · change Opens (PyText.ofString "Infinity")
          exact ⟨'I', _, rfl, by decide⟩
        · change Opens (PyText.ofString "-Infinity")
          exact ⟨'-', _, rfl, by decide⟩
      | nan =>
        change Opens (PyText.ofString "NaN")
        exact ⟨'N', _, rfl, by decide⟩
  | str text => exact ⟨'"', _, rfl, by decide⟩
  | arr each => exact ⟨'[', _, rfl, by decide⟩
  | obj distinct each => exact ⟨'\x7b', _, rfl, by decide⟩

theorem isBlank_of_opening {c : Char} (starts : c ∈ opening) : isBlank (.char c) = false := by
  revert c
  decide

theorem skip_of_opens {text : PyText} (opens : Opens text) (tail : PyText) : skip (text ++ tail) = text ++ tail := by
  obtain ⟨c, rest, rfl, starts⟩ := opens
  rw [skip, List.cons_append, List.dropWhile_cons, isBlank_of_opening starts]
  rfl

section Scanning

variable {hook : PairsHook} {floats : FloatText} {scan : Option (Scan Value)}

theorem scanWith_of_number {text : PyText} {result : Except LoadError (Value × PyText)}
    (number : scanNumber floats text = some result) : scanWith hook floats scan text = result := by
  unfold scanWith
  split
  · cases number
  · cases number
  · cases number
  · rw [number]

theorem scanWith_word {word : String} {value : Value} (member : (word, value) ∈ constants) (tail : PyText) :
    scanWith hook floats scan (PyText.ofString word ++ tail) = .ok (value, tail) := by
  simp only [constants, List.mem_cons, Prod.mk.injEq, List.not_mem_nil, or_false] at member
  rcases member with ⟨rfl, rfl⟩ | ⟨rfl, rfl⟩ | ⟨rfl, rfl⟩ | ⟨rfl, rfl⟩ | ⟨rfl, rfl⟩ | ⟨rfl, rfl⟩ <;> rfl

end Scanning

theorem length_separated (texts : List PyText) : texts.length ≤ (separated texts).length + 1 := by
  fun_induction separated texts with
  | case1 => simp
  | case2 => simp
  | case3 text rest _ ih =>
    simp only [List.length_cons, List.length_append]
    omega

section Sequences

variable {α : Type} {closing : Char} {scan : Scan α} {write : α → PyText}

def Reads (scan : Scan α) (write : α → PyText) (item : α) : Prop :=
  Opens (write item) ∧ ∀ tail, Boundary tail → scan (write item ++ tail) = .ok (item, tail)

theorem skip_mark {c : Char} (visible : isBlank (.char c) = false) (tail : PyText) :
    skip (.char c :: tail) = .char c :: tail := by
  rw [skip, List.dropWhile_cons, visible]
  rfl

theorem isBlank_closing (mark : closing = ']' ∨ closing = '\x7d') : isBlank (.char closing) = false := by
  rcases mark with rfl | rfl <;> decide

theorem opens_separated {items : List α} (nonempty : items ≠ []) (reads : ∀ item ∈ items, Reads scan write item) :
    Opens (separated (items.map write)) := by
  match items with
  | [] => exact absurd rfl nonempty
  | [item] => exact (reads item List.mem_cons_self).1
  | item :: next :: rest =>
    obtain ⟨c, text, same, starts⟩ := (reads item List.mem_cons_self).1
    exact ⟨c, _, by rw [List.map_cons, List.map_cons, separated, same, List.cons_append]; simp, starts⟩

theorem scanSequence_separated (mark : closing = ']' ∨ closing = '\x7d') {items : List α} (nonempty : items ≠ [])
    (reads : ∀ item ∈ items, Reads scan write item) {fuel : Nat} (enough : items.length ≤ fuel) (tail : PyText) :
    scanSequence closing scan fuel (separated (items.map write) ++ .char closing :: tail) = .ok (items, tail) := by
  induction items generalizing fuel with
  | nil => exact absurd rfl nonempty
  | cons item rest ih =>
    cases fuel with
    | zero => simp at enough
    | succ fuel =>
      have first := (reads item List.mem_cons_self).2
      cases rest with
      | nil =>
        have read := first (.char closing :: tail) (boundary_cons (.inr mark) tail)
        rw [List.map_cons, List.map_nil, separated, scanSequence, read]
        simp only [bind, Except.bind, skip_mark (isBlank_closing mark), if_true]
      | cons next others =>
        have later : ∀ item ∈ next :: others, Reads scan write item :=
          fun item member => reads item (List.mem_cons_of_mem _ member)
        have comma : ',' ≠ closing := by rcases mark with rfl | rfl <;> decide
        have text : separated ((item :: next :: others).map write) ++ .char closing :: tail =
            write item ++ .char ',' :: (separated ((next :: others).map write) ++ .char closing :: tail) := by
          rw [List.map_cons, List.map_cons, separated, List.append_assoc, List.cons_append]
          simp
        have read := first (.char ',' :: (separated ((next :: others).map write) ++ .char closing :: tail))
          (boundary_cons (.inl rfl) _)
        have followed := @ih (by simp) later fuel (by simpa using enough)
        rw [text, scanSequence, read]
        simp only [bind, Except.bind, skip_mark (c := ',') (by decide), if_neg comma, if_true,
          skip_of_opens (opens_separated (by simp) later), followed]

theorem scanEnclosed_separated (mark : closing = ']' ∨ closing = '\x7d') {items : List α}
    (reads : ∀ item ∈ items, Reads scan write item) (tail : PyText) :
    scanEnclosed closing scan (separated (items.map write) ++ .char closing :: tail) = .ok (items, tail) := by
  by_cases none : items = []
  · rw [none, List.map_nil, separated, List.nil_append, scanEnclosed, skip_mark (isBlank_closing mark)]
    rw [List.head?_cons, if_pos rfl, List.tail_cons]
  · have opens := opens_separated none reads
    have long := length_separated (items.map write)
    rw [List.length_map] at long
    rw [scanEnclosed, skip_of_opens opens, if_neg]
    · apply scanSequence_separated mark none reads
      simp only [List.length_append, List.length_cons]
      omega
    · obtain ⟨c, rest, same, starts⟩ := opens
      rw [same, List.cons_append, List.head?_cons]
      intro closed
      cases closed
      rcases mark with rfl | rfl <;> exact absurd starts (by decide)

end Sequences

theorem reads_entry {scan : Scan Value} {floats : FloatText} {entry : PyText × Value}
    (reads : Reads scan (dumps floats) entry.2) : Reads (scanMember scan) (dumpsEntry floats) entry := by
  constructor
  · exact ⟨'"', _, rfl, by decide⟩
  · intro tail boundary
    have text : dumpsEntry floats entry ++ tail =
        .char '"' :: (entry.1.flatMap quotedPoint ++ .char '"' :: .char ':' :: (dumps floats entry.2 ++ tail)) := by
      simp [dumpsEntry, quoted]
    rw [text, scanMember, scanString_quoted]
    simp only [bind, Except.bind, skip_mark (c := ':') (by decide), skip_of_opens reads.1, reads.2 tail boundary]

def Keeps (hook : PairsHook) : Prop := ∀ pairs : Entries, (pairs.map (·.1)).Nodup → hook pairs = .ok pairs

section Values

variable {hook : PairsHook} {floats : FloatText}

variable (hook floats) in
theorem scanOnce_eq_scanWith (depth : Nat) : ∃ scan, scanOnce hook floats depth = scanWith hook floats scan := by
  cases depth with
  | zero => exact ⟨none, rfl⟩
  | succ depth => exact ⟨some (scanOnce hook floats depth), rfl⟩

theorem scanOnce_dumps (keeps : Keeps hook) {depth : Nat} {value : Value} (formed : WellFormed floats depth value)
    {tail : PyText} (boundary : Boundary tail) :
    scanOnce hook floats depth (dumps floats value ++ tail) = .ok (value, tail) := by
  induction formed generalizing tail with
  | @null depth =>
    obtain ⟨scan, same⟩ := scanOnce_eq_scanWith hook floats depth
    rw [same, dumps]
    exact scanWith_word (by simp [constants]) tail
  | @bool depth value =>
    obtain ⟨scan, same⟩ := scanOnce_eq_scanWith hook floats depth
    rw [same, dumps]
    cases value <;> exact scanWith_word (by simp [constants]) tail
  | @int depth value sized =>
    obtain ⟨scan, same⟩ := scanOnce_eq_scanWith hook floats depth
    rw [same, dumps]
    exact scanWith_of_number (scanNumber_int sized boundary.numeric)
  | @float depth value held =>
    obtain ⟨scan, same⟩ := scanOnce_eq_scanWith hook floats depth
    rw [same, dumps]
    cases value with
    | finite number => exact scanWith_of_number (scanNumber_float held rfl boundary.numeric)
    | negativeZero => exact scanWith_of_number (scanNumber_float held rfl boundary.numeric)
    | infinity negative => cases negative <;> exact scanWith_word (by simp [constants, floatText]) tail
    | nan => exact scanWith_word (by simp [constants, floatText]) tail
  | @str depth text =>
    obtain ⟨scan, same⟩ := scanOnce_eq_scanWith hook floats depth
    rw [same, dumps, quoted, List.cons_append, List.append_assoc, List.singleton_append, scanWith, scanString_quoted]
    rfl
  | @arr depth items each ih =>
    have reads : ∀ item ∈ items, Reads (scanOnce hook floats depth) (dumps floats) item :=
      fun item member => ⟨dumps_opens (each item member), fun tail boundary => ih item member boundary⟩
    rw [dumps, dumpsItems_eq, List.cons_append, List.append_assoc, List.singleton_append, scanOnce, scanWith]
    simp only [Option.elim, scanArray, bind, Except.bind, scanEnclosed_separated (.inl rfl) reads]
  | @obj depth entries distinct each ih =>
    have reads : ∀ entry ∈ entries, Reads (scanMember (scanOnce hook floats depth)) (dumpsEntry floats) entry :=
      fun entry member =>
        reads_entry ⟨dumps_opens (each entry member), fun tail boundary => ih entry member boundary⟩
    rw [dumps, dumpsEntries_eq, List.cons_append, List.append_assoc, List.singleton_append, scanOnce, scanWith]
    simp only [Option.elim, scanObject, bind, Except.bind, scanEnclosed_separated (.inr rfl) reads,
      keeps entries distinct]

theorem decodeText_dumps (keeps : Keeps hook) {depth : Nat} {value : Value}
    (formed : WellFormed floats depth value) : decodeText hook floats depth (dumps floats value) = .ok value := by
  have ends : Boundary [] := fun c rest same => by cases same
  have read := scanOnce_dumps keeps formed ends
  have skipped := skip_of_opens (dumps_opens formed) []
  rw [List.append_nil] at read skipped
  rw [decodeText, skipped, read]
  rfl

theorem checkItems_eq_ok {depth : Nat} {items : List Value} (each : ∀ item ∈ items, checkDumps depth item = .ok ()) :
    checkItems depth items = .ok () := by
  induction items with
  | nil => rfl
  | cons item rest ih =>
    rw [checkItems, each item List.mem_cons_self]
    exact ih fun other member => each other (List.mem_cons_of_mem item member)

theorem checkEntries_eq_ok {depth : Nat} {entries : Entries}
    (each : ∀ entry ∈ entries, checkDumps depth entry.2 = .ok ()) : checkEntries depth entries = .ok () := by
  induction entries with
  | nil => rfl
  | cons entry rest ih =>
    rw [checkEntries, each entry List.mem_cons_self]
    exact ih fun other member => each other (List.mem_cons_of_mem entry member)

theorem checkDumps_eq_ok {depth : Nat} {value : Value} (formed : WellFormed floats depth value) :
    checkDumps depth value = .ok () := by
  induction formed with
  | null => simp only [checkDumps]
  | bool value => simp only [checkDumps]
  | int sized => simp only [checkDumps, if_pos sized]
  | float held => simp only [checkDumps]
  | str text => simp only [checkDumps]
  | arr each ih => rw [checkDumps, checkItems_eq_ok ih]
  | obj distinct each ih => rw [checkDumps, checkEntries_eq_ok ih]

/-! ### Bytes -/

inductive PlainValue : Value → Prop where
  | null : PlainValue .null
  | bool (value : Bool) : PlainValue (.bool value)
  | int (value : Int) : PlainValue (.int value)
  | float (value : Double) : PlainValue (.float value)
  | str {text : PyText} (plain : text.Plain) : PlainValue (.str text)
  | arr {items : List Value} (each : ∀ item ∈ items, PlainValue item) : PlainValue (.arr items)
  | obj {entries : Entries} (keys : ∀ entry ∈ entries, entry.1.Plain) (each : ∀ entry ∈ entries, PlainValue entry.2) :
      PlainValue (.obj entries)

theorem plain_quoted (text : PyText) : (quoted text).Plain ↔ text.Plain := by
  have point : ∀ point : CodePoint, (quotedPoint point).Plain ↔ PyText.Plain [point] := by
    intro point
    cases point with
    | char c => simp [quotedPoint, PyText.plain_map_char]
    | surrogate unit => rfl
  have body : PyText.Plain (text.flatMap quotedPoint) ↔ text.Plain := by
    induction text with
    | nil => rfl
    | cons first rest ih =>
      rw [List.flatMap_cons, PyText.plain_append, ih, point, ← PyText.plain_append, List.singleton_append]
  rw [quoted, PyText.plain_char, PyText.plain_append, body]
  simp

theorem plain_separated (texts : List PyText) : (separated texts).Plain ↔ ∀ text ∈ texts, text.Plain := by
  fun_induction separated texts with
  | case1 => simp
  | case2 text => simp
  | case3 text rest _ ih => rw [PyText.plain_append, PyText.plain_char, ih, List.forall_mem_cons]

theorem plain_dumpsEntry (entry : PyText × Value) :
    (dumpsEntry floats entry).Plain ↔ entry.1.Plain ∧ (dumps floats entry.2).Plain := by
  rw [dumpsEntry, PyText.plain_append, PyText.plain_char, plain_quoted]

theorem plain_arr (items : List Value) :
    (dumps floats (.arr items)).Plain ↔ ∀ item ∈ items, (dumps floats item).Plain := by
  rw [dumps, dumpsItems_eq, PyText.plain_char, PyText.plain_append, plain_separated]
  simp

theorem plain_obj (entries : Entries) :
    (dumps floats (.obj entries)).Plain ↔ ∀ entry ∈ entries, entry.1.Plain ∧ (dumps floats entry.2).Plain := by
  rw [dumps, dumpsEntries_eq, PyText.plain_char, PyText.plain_append, plain_separated, List.forall_mem_map]
  simp only [plain_dumpsEntry, PyText.plain_char, PyText.plain_nil, and_true]

theorem plain_str_iff {text : PyText} : PlainValue (.str text) ↔ text.Plain := by
  constructor
  · intro plain
    cases plain with
    | str inside => exact inside
  · exact .str

theorem plain_arr_iff {items : List Value} : PlainValue (.arr items) ↔ ∀ item ∈ items, PlainValue item := by
  constructor
  · intro plain
    cases plain with
    | arr each => exact each
  · exact .arr

theorem plain_obj_iff {entries : Entries} :
    PlainValue (.obj entries) ↔ ∀ entry ∈ entries, entry.1.Plain ∧ PlainValue entry.2 := by
  constructor
  · intro plain
    cases plain with
    | obj keys each => exact fun entry member => ⟨keys entry member, each entry member⟩
  · intro both
    exact .obj (fun entry member => (both entry member).1) fun entry member => (both entry member).2

theorem plain_set_congr (entries : Entries) (key : PyText) {value other : Value}
    (alike : PlainValue value ↔ PlainValue other) :
    PlainValue (.obj (entries.set key value)) ↔ PlainValue (.obj (entries.set key other)) := by
  induction entries with
  | nil => simp only [Entries.set, plain_obj_iff, List.forall_mem_singleton, alike]
  | cons entry rest ih =>
    simp only [plain_obj_iff] at ih
    rw [Entries.set, Entries.set]
    split
    · simp only [plain_obj_iff, List.forall_mem_cons, alike]
    · simp only [plain_obj_iff, List.forall_mem_cons, ih]

theorem plain_set_of_absent {entries : Entries} {key : PyText} {value : Value} (absent : entries.get key = none)
    (named : key.Plain) (inner : PlainValue value) :
    PlainValue (.obj (entries.set key value)) ↔ PlainValue (.obj entries) := by
  rw [Entries.set_of_notMem value (Entries.get_eq_none.mp absent), plain_obj_iff, plain_obj_iff, List.forall_mem_append,
    List.forall_mem_singleton]
  exact and_iff_left ⟨named, inner⟩

theorem plain_dumps {depth : Nat} {value : Value} (formed : WellFormed floats depth value) :
    (dumps floats value).Plain ↔ PlainValue value := by
  induction formed with
  | null => exact iff_of_true (PyText.plain_ofString _) .null
  | bool value => exact iff_of_true (PyText.plain_ofString _) (.bool value)
  | int sized => exact iff_of_true (PyText.plain_ofString _) (.int _)
  | float held => exact iff_of_true (PyText.plain_ofString _) (.float _)
  | str text => rw [dumps, plain_quoted, plain_str_iff]
  | arr each ih => rw [plain_arr, plain_arr_iff, forall₂_congr ih]
  | obj distinct each ih =>
    rw [plain_obj, plain_obj_iff]
    exact forall₂_congr fun entry member => and_congr_right fun _ => ih entry member

theorem loads_dumps (keeps : Keeps hook) {depth : Nat} {entry : PyText × Value} {rest : Entries}
    (formed : WellFormed floats depth (.obj (entry :: rest))) {bytes : List UInt8}
    (encoded : (dumps floats (.obj (entry :: rest))).encode = some bytes) :
    loads hook floats depth bytes = .ok (.obj (entry :: rest)) := by
  have start : ∃ tail, dumps floats (.obj (entry :: rest)) = .char '\x7b' :: .char '"' :: tail := by
    cases rest with
    | nil => exact ⟨_, rfl⟩
    | cons next others => exact ⟨_, rfl⟩
  obtain ⟨tail, same⟩ := start
  have text : decode (detectEncoding bytes) bytes = some (dumps floats (.obj (entry :: rest))) := by
    rw [same] at encoded ⊢
    exact decode_encode (by decide) (by decide) encoded
  rw [loads, text]
  exact decodeText_dumps keeps formed

end Values

/-! ### Floats in fixed point -/

namespace FixedPoint

def places : Nat := 20

def exponentValue : List Char → Int
  | _ :: '-' :: digits => -Nat.ofDigitChars 10 digits 0
  | _ :: '+' :: digits => Nat.ofDigitChars 10 digits 0
  | _ :: digits => Nat.ofDigitChars 10 digits 0
  | [] => 0

/-- `number * 10 ^ scale` without what is after the point. -/
def shift (number : Nat) (scale : Int) : Nat :=
  if 0 ≤ scale then number * 10 ^ scale.toNat else number / 10 ^ (-scale).toNat

def signed (negative : Bool) (units : Nat) : Int := if negative then -units else units

def ofUnits (negative : Bool) (units : Nat) : Double :=
  if units = 0 ∧ negative = true then .negativeZero else .finite ((signed negative units : Rat) / 10 ^ places)

def read (literal : List Char) : Double :=
  let sign := scanSign (literal.map .char)
  match scanWhole sign.2 with
  | none => .nan
  | some whole =>
      let fraction := scanFraction whole.2
      let exponent := scanExponent fraction.2
      let scale := places + exponentValue exponent.1 - (fraction.1.length - 1 : Nat)
      ofUnits (sign.1 = ['-']) (shift (Nat.ofDigitChars 10 (whole.1 ++ fraction.1.tail) 0) scale)

def written (negative : Bool) (units : Nat) : String :=
  (if negative then "-" else "") ++ units.repr ++ "e-20"

def repr : Double → String
  | .finite value => written (value < 0) (value * 10 ^ places).num.natAbs
  | .negativeZero => written true 0
  | .infinity negative => if negative then "-inf" else "inf"
  | .nan => "nan"

theorem repr_ofUnits (negative : Bool) (units : Nat) : repr (ofUnits negative units) = written negative units := by
  unfold ofUnits
  split
  · next zero => rw [repr, zero.1, zero.2]
  · next other =>
    have scaled : (signed negative units : ℚ) / 10 ^ places * 10 ^ places = signed negative units :=
      div_mul_cancel₀ _ (by positivity)
    have below : ((signed negative units : ℚ) / 10 ^ places < 0) ↔ negative = true := by
      rw [div_lt_iff₀ (by positivity), zero_mul, Int.cast_lt_zero]
      cases negative with
      | false => simp [signed]
      | true =>
        have positive : 0 < units := Nat.pos_of_ne_zero fun zero => other ⟨zero, rfl⟩
        simp [signed, positive]
    rw [repr, scaled, Rat.num_intCast]
    congr 1
    · rw [Bool.decide_congr below, Bool.decide_eq_true]
    · cases negative <;> simp [signed]

def parts (negative : Bool) (units : Nat) : FloatParts where
  sign := if negative then ['-'] else []
  whole := Nat.toDigits 10 units
  fraction := []
  exponent := ['e', '-', '2', '0']
  signed := by cases negative <;> simp
  counted := whole_toDigits units
  pointed := .inl rfl
  raised := .inr ⟨'e', ['-'], ['2', '0'], .inl rfl, .inr (.inr rfl), ⟨by decide, by decide⟩, rfl⟩
  marked := .inr (by decide)

theorem toList_written (negative : Bool) (units : Nat) :
    (written negative units).toList = (parts negative units).text := by
  cases negative <;> simp [written, parts, FloatParts.text]

theorem read_text (negative : Bool) (units : Nat) : read (parts negative units).text = ofUnits negative units := by
  obtain ⟨c, rest, same, digit⟩ := digit_of_whole (whole_toDigits units)
  have signed : scanSign ((parts negative units).text.map .char) =
      ((parts negative units).sign, (Nat.toDigits 10 units).map .char ++ "e-20".toList.map .char) := by
    have text : (parts negative units).text.map CodePoint.char =
        (parts negative units).sign.map .char ++ ((Nat.toDigits 10 units).map .char ++ "e-20".toList.map .char) := by
      simp [FloatParts.text, parts]
    rw [text, same, List.map_cons, List.cons_append]
    exact scanSign_sign (parts negative units).signed digit _
  have whole : scanWhole ((Nat.toDigits 10 units).map .char ++ "e-20".toList.map .char) =
      some (Nat.toDigits 10 units, "e-20".toList.map .char) :=
    scanWhole_whole (whole_toDigits units) (avoids_cons (by decide) _)
  have scale : (places : Int) + exponentValue "e-20".toList - (([] : List Char).length - 1 : Nat) = 0 := by decide
  have shifted : shift units 0 = units := by simp [shift]
  have ending : scanFraction ("e-20".toList.map .char) = ([], "e-20".toList.map .char) ∧
      scanExponent ("e-20".toList.map .char) = ("e-20".toList, []) := by decide
  simp only [read, signed, whole, ending.1, ending.2, scale, List.tail_nil, List.append_nil,
    Nat.ofDigitChars_ten_toDigits, shifted]
  cases negative <;> rfl

theorem read_eq_ofUnits {text : List Char} (finite : (read text).isFinite = true) :
    ∃ negative units, read text = ofUnits negative units := by
  unfold read at finite ⊢
  cases whole : scanWhole (scanSign (text.map .char)).2 with
  | none =>
    simp only [whole] at finite
    cases finite
  | some found =>
    simp only [whole]
    exact ⟨_, _, rfl⟩

def floats : FloatText where
  read := read
  repr := repr
  literal text finite := by
    obtain ⟨negative, units, same⟩ := read_eq_ofUnits finite
    exact ⟨parts negative units, by rw [same, repr_ofUnits, toList_written]⟩
  again text finite := by
    obtain ⟨negative, units, same⟩ := read_eq_ofUnits finite
    rw [same, repr_ofUnits, toList_written, read_text]

end FixedPoint

end Python.JsonModule
