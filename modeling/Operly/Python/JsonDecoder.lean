import Operly.Python.CodePoints
import Operly.Python.Exceptions
import Operly.Python.Json

/-! `json.loads` on bytes: the values it builds, and the ways it fails. -/

namespace Python

def Double.isFinite : Double → Bool
  | .finite _ | .negativeZero => true
  | .infinity _ | .nan => false

namespace JsonModule

inductive Value where
  | null
  | bool (value : Bool)
  | int (value : Int)
  | float (value : Double)
  | str (text : PyText)
  | arr (items : List Value)
  | obj (entries : List (PyText × Value))

abbrev Entries := List (PyText × Value)

namespace Entries

def get : Entries → PyText → Option Value
  | [], _ => none
  | (name, value) :: rest, key => if name = key then some value else get rest key

def set : Entries → PyText → Value → Entries
  | [], key, value => [(key, value)]
  | (name, old) :: rest, key, value =>
      if name = key then (name, value) :: rest else (name, old) :: set rest key value

end Entries

inductive LoadError where
  /-- `JSONDecodeError`, or `UnicodeDecodeError` -/
  | invalid
  /-- `DuplicateJSONKey`, which the hook for pairs raises -/
  | duplicate
  /-- `ValueError`: the digits of an integer exceed the limit -/
  | digits
  | recursion
  deriving DecidableEq

/-- A part of a string literal: a code point, or the unit of an escape. -/
inductive Piece where
  | point (point : CodePoint)
  | escaped (unit : Nat)

def hexValue? : CodePoint → Option Nat
  | .char c =>
      if '0' ≤ c ∧ c ≤ '9' then some (c.toNat - 48)
      else if 'a' ≤ c ∧ c ≤ 'f' then some (c.toNat - 87)
      else if 'A' ≤ c ∧ c ≤ 'F' then some (c.toNat - 55)
      else none
  | .surrogate _ => none

def escapedUnit? (a b c d : CodePoint) : Option Nat := do
  let a ← hexValue? a
  let b ← hexValue? b
  let c ← hexValue? c
  let d ← hexValue? d
  some (4096 * a + 256 * b + 16 * c + d)

def simpleEscape? (c : Char) : Option Char :=
  if c = '"' ∨ c = '\\' ∨ c = '/' then some c
  else if c = 'b' then some (Char.ofNat 8)
  else if c = 'f' then some (Char.ofNat 12)
  else if c = 'n' then some '\n'
  else if c = 'r' then some '\r'
  else if c = 't' then some '\t'
  else none

def scanPieces : PyText → Option (List Piece × PyText)
  | .char '"' :: rest => some ([], rest)
  | .char '\\' :: .char 'u' :: a :: b :: c :: d :: rest => do
      let unit ← escapedUnit? a b c d
      let (pieces, tail) ← scanPieces rest
      some (.escaped unit :: pieces, tail)
  | .char '\\' :: .char c :: rest => do
      let point ← simpleEscape? c
      let (pieces, tail) ← scanPieces rest
      some (.point (.char point) :: pieces, tail)
  | .char '\\' :: _ => none
  | point :: rest => do
      -- control characters stand in no literal
      if point.value < 32 then none
      else
        let (pieces, tail) ← scanPieces rest
        some (.point point :: pieces, tail)
  | [] => none

def isHigh (unit : Nat) : Bool := 0xD800 ≤ unit && unit < 0xDC00

def isLow (unit : Nat) : Bool := 0xDC00 ≤ unit && unit < 0xE000

def ofUnit (unit : Nat) : CodePoint := (CodePoint.ofNat? unit).getD (.char (Char.ofNat unit))

def join : List Piece → PyText
  | [] => []
  | .point point :: rest => point :: join rest
  | .escaped high :: .escaped low :: rest =>
      if isHigh high && isLow low then
        .char (Char.ofNat (0x10000 + (high - 0xD800) * 1024 + (low - 0xDC00))) :: join rest
      else ofUnit high :: join (.escaped low :: rest)
  | .escaped unit :: rest => ofUnit unit :: join rest

def scanString (text : PyText) : Except LoadError (PyText × PyText) :=
  match scanPieces text with
  | some (pieces, rest) => .ok (join pieces, rest)
  | none => .error .invalid

def Digits (digits : List Char) : Prop := digits ≠ [] ∧ ∀ c ∈ digits, c.isDigit = true

def Whole (whole : List Char) : Prop := whole = ['0'] ∨ Digits whole ∧ whole.head? ≠ some '0'

def Fraction (fraction : List Char) : Prop := fraction = [] ∨ ∃ digits, Digits digits ∧ fraction = '.' :: digits

def Exponent (exponent : List Char) : Prop :=
  exponent = [] ∨ ∃ mark sign digits, (mark = 'e' ∨ mark = 'E') ∧ (sign = [] ∨ sign = ['+'] ∨ sign = ['-']) ∧
    Digits digits ∧ exponent = mark :: (sign ++ digits)

structure FloatParts where
  sign : List Char
  whole : List Char
  fraction : List Char
  exponent : List Char
  signed : sign = [] ∨ sign = ['-']
  counted : Whole whole
  pointed : Fraction fraction
  raised : Exponent exponent
  marked : fraction ≠ [] ∨ exponent ≠ []

def FloatParts.text (parts : FloatParts) : List Char :=
  parts.sign ++ parts.whole ++ parts.fraction ++ parts.exponent

/-- `float(text)` of a literal, and `float.__repr__`, which reads back as the same float. -/
structure FloatText where
  read : List Char → Double
  repr : Double → String
  literal : ∀ text, (read text).isFinite → ∃ parts : FloatParts, (repr (read text)).toList = parts.text
  again : ∀ text, (read text).isFinite → read (repr (read text)).toList = read text

def spanDigits : PyText → List Char × PyText
  | .char c :: rest =>
      if c.isDigit then (c :: (spanDigits rest).1, (spanDigits rest).2) else ([], .char c :: rest)
  | rest => ([], rest)

def scanSign : PyText → List Char × PyText
  | .char '-' :: rest => (['-'], rest)
  | text => ([], text)

def scanWhole : PyText → Option (List Char × PyText)
  | .char '0' :: rest => some (['0'], rest)
  | text => if (spanDigits text).1 = [] then none else some (spanDigits text)

def scanFraction : PyText → List Char × PyText
  | .char '.' :: rest =>
      if (spanDigits rest).1 = [] then ([], .char '.' :: rest)
      else ('.' :: (spanDigits rest).1, (spanDigits rest).2)
  | text => ([], text)

def scanExponentSign : PyText → List Char × PyText
  | .char '+' :: rest => (['+'], rest)
  | .char '-' :: rest => (['-'], rest)
  | text => ([], text)

def scanExponent : PyText → List Char × PyText
  | .char c :: rest =>
      let sign := scanExponentSign rest
      if (c = 'e' ∨ c = 'E') ∧ (spanDigits sign.2).1 ≠ [] then
        (c :: (sign.1 ++ (spanDigits sign.2).1), (spanDigits sign.2).2)
      else ([], .char c :: rest)
  | text => ([], text)

/-- `_match_number`; `none` when no number starts here. -/
def scanNumber (floats : FloatText) (text : PyText) : Option (Except LoadError (Value × PyText)) :=
  let sign := scanSign text
  (scanWhole sign.2).map fun whole =>
    let fraction := scanFraction whole.2
    let exponent := scanExponent fraction.2
    if fraction.1 = [] ∧ exponent.1 = [] then
      if maxIntDigits < whole.1.length then .error .digits
      else
        let magnitude : Int := Nat.ofDigitChars 10 whole.1 0
        .ok (.int (if sign.1 = [] then magnitude else -magnitude), exponent.2)
    else .ok (.float (floats.read (sign.1 ++ whole.1 ++ fraction.1 ++ exponent.1)), exponent.2)

def constants : List (String × Value) :=
  [("null", .null), ("true", .bool true), ("false", .bool false), ("NaN", .float .nan),
   ("Infinity", .float (.infinity false)), ("-Infinity", .float (.infinity true))]

def scanConstant (text : PyText) : Option (Value × PyText) :=
  constants.findSome? fun constant =>
    if PyText.ofString constant.1 <+: text then some (constant.2, text.drop constant.1.length) else none

abbrev Scan (α : Type) := PyText → Except LoadError (α × PyText)

def isBlank : CodePoint → Bool
  | .char c => c = ' ' || c = '\t' || c = '\n' || c = '\r'
  | .surrogate _ => false

def skip (text : PyText) : PyText := text.dropWhile isBlank

def scanSequence {α : Type} (closing : Char) (scan : Scan α) : Nat → PyText → Except LoadError (List α × PyText)
  | 0, _ => .error .invalid
  | fuel + 1, text => do
      let (item, rest) ← scan text
      match skip rest with
      | .char c :: rest =>
          if c = closing then .ok ([item], rest)
          else if c = ',' then
            let (items, rest) ← scanSequence closing scan fuel (skip rest)
            .ok (item :: items, rest)
          else .error .invalid
      | _ => .error .invalid

def scanEnclosed {α : Type} (closing : Char) (scan : Scan α) (text : PyText) : Except LoadError (List α × PyText) :=
  if (skip text).head? = some (.char closing) then .ok ([], (skip text).tail)
  else scanSequence closing scan (skip text).length (skip text)

def scanMember (scan : Scan Value) : PyText → Except LoadError ((PyText × Value) × PyText)
  | .char '"' :: text => do
      let (key, rest) ← scanString text
      match skip rest with
      | .char ':' :: rest => do
          let (value, rest) ← scan (skip rest)
          .ok ((key, value), rest)
      | _ => .error .invalid
  | _ => .error .invalid

/-- `JSONArray` -/
def scanArray (scan : Scan Value) (text : PyText) : Except LoadError (Value × PyText) := do
  let (items, rest) ← scanEnclosed ']' scan text
  .ok (.arr items, rest)

/-- `object_pairs_hook` -/
abbrev PairsHook := Entries → Except LoadError Entries

/-- The dictionary that `json.loads` builds without a hook: the last of repeated keys wins. -/
def dictionary : PairsHook := fun pairs => .ok (pairs.foldl (fun result entry => result.set entry.1 entry.2) [])

/-- `JSONObject` -/
def scanObject (hook : PairsHook) (scan : Scan Value) (text : PyText) : Except LoadError (Value × PyText) := do
  let (pairs, rest) ← scanEnclosed '}' (scanMember scan) text
  let entries ← hook pairs
  .ok (.obj entries, rest)

/-- Where a value may start; `none` stands for containers that nest too deeply. -/
def scanWith (hook : PairsHook) (floats : FloatText) (scan : Option (Scan Value)) : Scan Value
  | .char '"' :: rest => do
      let (text, rest) ← scanString rest
      .ok (.str text, rest)
  | .char '[' :: rest => scan.elim (.error .recursion) fun scan => scanArray scan rest
  | .char '{' :: rest => scan.elim (.error .recursion) fun scan => scanObject hook scan rest
  | text =>
      match scanNumber floats text with
      | some number => number
      | none =>
          match scanConstant text with
          | some constant => .ok constant
          | none => .error .invalid

/-- `scan_once`, with so many containers left to enter. An array and an object count one level each here, while the
pairs hook makes an object cost CPython more of its stack. -/
def scanOnce (hook : PairsHook) (floats : FloatText) : Nat → Scan Value
  | 0 => scanWith hook floats none
  | depth + 1 => scanWith hook floats (some (scanOnce hook floats depth))

def decodeText (hook : PairsHook) (floats : FloatText) (depth : Nat) (text : PyText) : Except LoadError Value := do
  let (value, rest) ← scanOnce hook floats depth (skip text)
  if skip rest = [] then .ok value else .error .invalid

def loads (hook : PairsHook) (floats : FloatText) (depth : Nat) (raw : List UInt8) : Except LoadError Value :=
  match decode (detectEncoding raw) raw with
  | some text => decodeText hook floats depth text
  | none => .error .invalid

end JsonModule

end Python
