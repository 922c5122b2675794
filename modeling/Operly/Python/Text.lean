import Mathlib.Data.List.DropRight
import Operly.Python.Unicode

/-! The `str` methods of Python on Lean strings, one code point at a time. -/

namespace Python

/-- What holds of every character of a list is decided along the list, not over all characters. -/
instance (priority := high) decidableMembers (p : Char → Prop) [DecidablePred p] (text : List Char) :
    Decidable (∀ c, c ∈ text → p c) := List.decidableBAll p text

def isSpace (c : Char) : Bool := Unicode.within Unicode.whitespace c.toNat

def stripChars (text : List Char) : List Char :=
  ((text.dropWhile isSpace).reverse.dropWhile isSpace).reverse

def strip (text : String) : String := String.ofList (stripChars text.toList)

theorem stripChars_eq (text : List Char) : stripChars text = (text.dropWhile isSpace).rdropWhile isSpace := rfl

theorem stripChars_stripChars (text : List Char) : stripChars (stripChars text) = stripChars text := by
  have front : (stripChars text).dropWhile isSpace = stripChars text := by
    rw [List.dropWhile_eq_self_iff]
    intro nonempty
    have start : stripChars text <+: text.dropWhile isSpace := List.rdropWhile_prefix ..
    rw [start.getElem nonempty]
    exact List.dropWhile_eq_self_iff.mp (List.dropWhile_idempotent ..) _
  rw [stripChars_eq (stripChars text), front, stripChars_eq, List.rdropWhile_idempotent]

@[simp] theorem strip_strip (text : String) : strip (strip text) = strip text := by
  simp only [strip, String.toList_ofList, stripChars_stripChars]

theorem strip_length_le (text : String) : (strip text).length ≤ text.length := by
  rw [strip, String.length_ofList, stripChars, List.length_reverse, ← String.length_toList]
  calc ((text.toList.dropWhile isSpace).reverse.dropWhile isSpace).length
      ≤ (text.toList.dropWhile isSpace).reverse.length := (List.dropWhile_suffix _).length_le
    _ = (text.toList.dropWhile isSpace).length := List.length_reverse
    _ ≤ text.toList.length := (List.dropWhile_suffix _).length_le

def lowerPoint (point : Nat) : Nat :=
  match Unicode.lowercaseRuns.find? fun run =>
      run.1 ≤ point && point ≤ run.2.1 && (point - run.1) % run.2.2.1 == 0 with
  | some run => run.2.2.2 + (point - run.1)
  | none => point

/-- Lower case of one character away from a capital sigma. Dotted capital I is the only
character with a longer image. -/
def lowerChar (c : Char) : List Char :=
  if c.toNat < 128 then
    [if 'A' ≤ c ∧ c ≤ 'Z' then Char.ofNat (c.toNat + 32) else c]
  else if c.toNat = 304 then ['i', Char.ofNat 775]
  else [Char.ofNat (lowerPoint c.toNat)]

def isCaseIgnorable (c : Char) : Bool := Unicode.within Unicode.caseIgnorable c.toNat

def isCased (c : Char) : Bool := Unicode.within Unicode.cased c.toNat

def casedAhead (text : List Char) : Bool :=
  match text.dropWhile isCaseIgnorable with
  | [] => false
  | c :: _ => isCased c

/-- Lower case with the final-sigma rule; `before` is what precedes, nearest first. -/
def lowerFrom (before : List Char) : List Char → List Char
  | [] => []
  | c :: rest =>
      (if c.toNat = 931 then
        [if casedAhead before && !casedAhead rest then Char.ofNat 962 else Char.ofNat 963]
      else lowerChar c) ++ lowerFrom (c :: before) rest

def lower (text : String) : String := String.ofList (lowerFrom [] text.toList)

def startsWith (text start : String) : Bool := start.toList.isPrefixOf text.toList

def endsWith (text tail : String) : Bool := tail.toList.isSuffixOf text.toList

def isInfix (part : List Char) : List Char → Bool
  | [] => part.isEmpty
  | c :: rest => part.isPrefixOf (c :: rest) || isInfix part rest

def contains (text part : String) : Bool := isInfix part.toList text.toList

def splitChars (separator : Char) : List Char → List (List Char)
  | [] => [[]]
  | c :: rest =>
      match splitChars separator rest with
      | [] => [[c]]
      | part :: parts => if c = separator then [] :: part :: parts else (c :: part) :: parts

/-- `str.split(separator)` for a separator of one character. -/
def split (separator : Char) (text : String) : List String :=
  (splitChars separator text.toList).map String.ofList

/-- The text before and after the first separator, as `str.split(separator, 1)` unpacks. -/
def splitOnce (separator : Char) (text : String) : String × String :=
  let before := text.toList.takeWhile (· ≠ separator)
  (String.ofList before, String.ofList (text.toList.drop (before.length + 1)))

def wordsFrom (word : List Char) : List Char → List (List Char)
  | [] => if word.isEmpty then [] else [word.reverse]
  | c :: rest =>
      if isSpace c then (if word.isEmpty then wordsFrom [] rest else word.reverse :: wordsFrom [] rest)
      else wordsFrom (c :: word) rest

/-- `str.split()` -/
def words (text : String) : List String := (wordsFrom [] text.toList).map String.ofList

def replaceChar (c : Char) (new : String) (text : String) : String :=
  String.ofList (text.toList.flatMap fun d => if d = c then new.toList else [d])

def decimalValue (c : Char) : Option Nat :=
  (Unicode.decimalDigits.find? fun range => range.1 ≤ c.toNat && c.toNat ≤ range.2).map
    fun range => (c.toNat - range.1) % 10

def isDigitChar (c : Char) : Bool :=
  (decimalValue c).isSome || Unicode.within Unicode.otherDigits c.toNat

def isDigit (text : String) : Bool := !text.toList.isEmpty && text.toList.all isDigitChar

def maxIntDigits : Nat := 4300

/-- Digits with single underscores between them; `none` when the literal is malformed. -/
def parseDigits : List Char → Option (List Nat)
  | [] => none
  | [c] => (decimalValue c).map fun value => [value]
  | c :: '_' :: rest => do
      let value ← decimalValue c
      let values ← parseDigits rest
      some (value :: values)
  | c :: rest => do
      let value ← decimalValue c
      let values ← parseDigits rest
      some (value :: values)

/-- What `int` and `float` pass by around a number; the separators U+001C to U+001F are spaces only to `strip`. -/
def isNumberSpace (c : Char) : Bool := isSpace c && !(28 ≤ c.toNat && c.toNat ≤ 31)

def stripNumber (text : List Char) : List Char :=
  ((text.dropWhile isNumberSpace).reverse.dropWhile isNumberSpace).reverse

theorem stripNumber_of_solid {text : List Char} (solid : ∀ c ∈ text, isSpace c = false) : stripNumber text = text := by
  have front : ∀ {text : List Char}, (∀ c ∈ text, isSpace c = false) → text.dropWhile isNumberSpace = text := by
    intro text solid
    refine List.dropWhile_eq_self_iff.mpr fun nonempty => ?_
    simp [isNumberSpace, solid _ (List.getElem_mem nonempty)]
  rw [stripNumber, front solid, front fun c member => solid c (List.mem_reverse.mp member), List.reverse_reverse]

/-- `int(text)`; `none` stands for `ValueError`. -/
def parseInt (text : String) : Option Int := do
  let (negative, digits) : Bool × List Char := match stripNumber text.toList with
    | '-' :: rest => (true, rest)
    | '+' :: rest => (false, rest)
    | rest => (false, rest)
  let values ← parseDigits digits
  if values.length > maxIntDigits then none
  else
    let magnitude : Nat := values.foldl (fun total value => 10 * total + value) 0
    some (if negative then -(magnitude : Int) else magnitude)

example : strip " \t a b \u00A0" = "a b" := by decide
example : lower "ΑΣ ΣΑ İK" = "ας σα i̇k" := by decide +kernel
example : parseInt " -1_0٣ " = some (-103) := by decide
example : words " a  bc\td " = ["a", "bc", "d"] := by decide
example : isDigit "²" = true ∧ parseInt "²" = none := by decide
example : parseInt "\u00A07" = some 7 ∧ parseInt "\u001F7" = none := by decide

end Python
