import Operly.Python.Values

/-! Arithmetic on numbers. A finite number stands for its value, and its zero has no sign; the infinities and NaN
follow the rules of floats. What an operation computes exactly is then rounded, to a float or, for exact decimals,
not at all. -/

namespace Python
namespace Double

def zero : Double := .finite 0

/-- `x + y` before it is rounded -/
def plus (x y : Double) : Double :=
  match x.unsigned, y.unsigned with
  | .finite a, .finite b => .finite (a + b)
  | .finite _, .infinity sign => .infinity sign
  | .infinity sign, .finite _ => .infinity sign
  | .infinity sign, .infinity sign' => if sign = sign' then .infinity sign else .nan
  | _, _ => .nan

def neg (x : Double) : Double :=
  match x.unsigned with
  | .finite a => .finite (-a)
  | .infinity sign => .infinity !sign
  | _ => .nan

def scaleInfinity (sign : Bool) (a : Rat) : Double :=
  if a = 0 then .nan else .infinity (sign != decide (a < 0))

/-- `x * y` before it is rounded -/
def times (x y : Double) : Double :=
  match x.unsigned, y.unsigned with
  | .finite a, .finite b => .finite (a * b)
  | .finite a, .infinity sign => scaleInfinity sign a
  | .infinity sign, .finite a => scaleInfinity sign a
  | .infinity sign, .infinity sign' => .infinity (sign != sign')
  | _, _ => .nan

def round (rounded : Rat → Double) (x : Double) : Double :=
  match x.unsigned with
  | .finite a => rounded a
  | other => other

def exactSum (values : List Double) : Double := values.foldl plus zero

def nearest (value : Rat) : Int :=
  let below := value.floor
  let rest := value - below
  if rest < 1 / 2 then below
  else if 1 / 2 < rest then below + 1
  else if below % 2 = 0 then below else below + 1

def overflow : Rat := 2 ^ 1024 - 2 ^ 970

/-- `⌊log2 |value|⌋` -/
def exponent (value : Rat) : Int :=
  let estimate : Int := (Nat.log2 value.num.natAbs : Int) - Nat.log2 value.den
  if (2 : Rat) ^ estimate ≤ |value| then estimate else estimate - 1

/-- The float of double precision that is nearest to a number. -/
def ofRat (value : Rat) : Double :=
  let unit : Rat := 2 ^ max (exponent value - 52) (-1074)
  if overflow ≤ |value| then .infinity (value < 0) else .finite (nearest (value / unit) * unit)

/-- A step of `sum`, which since Python 3.12 keeps what each addition loses. -/
def compensate (rounded : Rat → Double) (state : Double × Double) (x : Double) : Double × Double :=
  let add x y := (plus x y).round rounded
  let next := add state.1 x
  let lost :=
    if (magnitude state.1).lt (magnitude x) then add (add x (neg next)) state.1 else add (add state.1 (neg next)) x
  (next, add state.2 lost)
where
  magnitude (x : Double) : Double := if x.lt zero then neg x else x

def compensatedSum (rounded : Rat → Double) (values : List Double) : Double :=
  let (sum, lost) := values.foldl (compensate rounded) (zero, zero)
  match lost with
  | .finite _ => (plus sum lost).round rounded
  | _ => sum

end Double

/-- The numbers that a program computes with: how an exact result is rounded, the `sum` of a sequence, and the
`SUM` of a database. -/
class Floats where
  rounded : Rat → Double
  sum : List Double → Double
  total : List Double → Double
  rounded_zero : rounded 0 = .zero
  sum_nil : sum [] = .zero

namespace Floats

/-- Exact decimals. -/
@[reducible] def exact : Floats where
  rounded := .finite
  sum := Double.exactSum
  total := Double.exactSum
  rounded_zero := rfl
  sum_nil := rfl

/-- Floats of double precision, and a database that adds the rows one after another. -/
@[reducible] def binary64 : Floats where
  rounded := Double.ofRat
  sum := Double.compensatedSum Double.ofRat
  total values := values.foldl (fun sum x => (sum.plus x).round Double.ofRat) .zero
  rounded_zero := by decide +kernel
  sum_nil := by decide +kernel

end Floats

namespace Double
section Rounded
variable [Floats]

def add (x y : Double) : Double := (plus x y).round Floats.rounded

def sub (x y : Double) : Double := add x (neg y)

def mul (x y : Double) : Double := (times x y).round Floats.rounded

/-- `x / 100.0`, rounded once -/
def percent (x : Double) : Double := mul x (.finite (1 / 100))

/-- `round(x, 2)` -/
def cents (x : Double) : Double := x.round fun a => Floats.rounded (nearest (a * 100) / 100)

/-- `0.0 + x1 + ... + xn` -/
def sum (values : List Double) : Double := values.foldl add zero

theorem zero_add_zero : zero.add zero = zero :=
  (congrArg Floats.rounded (add_zero (0 : Rat))).trans Floats.rounded_zero

theorem cents_zero : zero.cents = zero := by
  have cents : (nearest (0 * 100) / 100 : Rat) = 0 := by decide +kernel
  exact (congrArg Floats.rounded cents).trans Floats.rounded_zero

end Rounded

/-- `max(0.0, x)`, which is the first of the two unless the second is greater -/
def nonnegative (x : Double) : Double := if zero.lt x then x.unsigned else zero

/-- `x >= y` -/
def atLeast (x y : Double) : Bool := Json.Order.gte.double x y

theorem atLeast_eq_not_lt {x y : Double} (positive : zero.lt x = true) (positive' : zero.lt y = true) :
    x.atLeast y = !x.lt y := by
  simp only [atLeast, Json.Order.double, same, lt, zero, unsigned] at *
  cases x with
  | finite a =>
    cases y with
    | finite b =>
      rw [Bool.eq_iff_iff]
      simp only [Bool.or_eq_true, decide_eq_true_eq, Bool.not_eq_true', decide_eq_false_iff_not, not_lt]
      exact ⟨fun reaches => reaches.elim le_of_lt fun same => same.ge, fun above => above.lt_or_eq.imp_right Eq.symm⟩
    | negativeZero => simp at positive'
    | infinity sign => simp_all
    | nan => simp at positive'
  | negativeZero => simp at positive
  | infinity sign => cases y <;> simp_all
  | nan => simp at positive

theorem positive_of_atLeast {x y : Double} (positive : zero.lt y = true) (reaches : x.atLeast y = true) :
    zero.lt x = true := by
  simp only [atLeast, Json.Order.double, same, lt, zero, unsigned] at *
  cases x with
  | finite a =>
    cases y with
    | finite b =>
      simp only [Bool.or_eq_true, decide_eq_true_eq] at positive reaches ⊢
      rcases reaches with above | equal
      · exact positive.trans above
      · exact equal ▸ positive
    | negativeZero => simp at positive
    | infinity sign => simp_all
    | nan => simp at positive
  | negativeZero => cases y <;> simp_all [not_lt_of_gt]
  | infinity sign => cases y <;> simp_all
  | nan => cases y <;> simp_all

/-- Three payments that come to 2.93 fall short of it, and one of 0.005 is not half a cent. -/
example : (Floats.binary64.total [ofRat (2 / 100), ofRat (199 / 100), ofRat (92 / 100)]).lt (ofRat (293 / 100)) = true ∧
    @cents Floats.binary64 (ofRat (5 / 1000)) = ofRat (1 / 100) ∧ @cents Floats.exact (.finite (5 / 1000)) = .finite 0 := by
  decide +kernel

def digitsValue (digits : List Nat) : Nat := digits.foldl (fun total digit => 10 * total + digit) 0

def parsePart : List Char → Option (List Nat)
  | [] => some []
  | part => parseDigits part

def signed : List Char → Bool × List Char
  | '-' :: rest => (true, rest)
  | '+' :: rest => (false, rest)
  | rest => (false, rest)

def parseExponent : List Char → Option Int
  | [] => some 0
  | _ :: rest => do
      let digits ← parseDigits (signed rest).2
      return if (signed rest).1 then -(digitsValue digits : Int) else digitsValue digits

def parseMagnitude (text : List Char) : Option Rat := do
  let mantissa := text.takeWhile fun c => c ≠ 'e' && c ≠ 'E'
  let whole := mantissa.takeWhile (· ≠ '.')
  let before ← parsePart whole
  let after ← parsePart ((mantissa.drop whole.length).drop 1)
  let exponent ← parseExponent (text.drop mantissa.length)
  if before.isEmpty && after.isEmpty then none
  else some ((digitsValue (before ++ after) : Rat) * (10 : Rat) ^ (exponent - after.length))

/-- `float(text)`; `none` stands for `ValueError`. -/
def parse [Floats] (text : String) : Option Double :=
  let (negative, rest) := signed (stripNumber text.toList)
  match lower (String.ofList rest) with
  | "inf" | "infinity" => some (.infinity negative)
  | "nan" => some .nan
  | _ => (parseMagnitude rest).map fun magnitude =>
      if overflow ≤ magnitude then .infinity negative
      else if negative && magnitude = 0 then .negativeZero
      else Floats.rounded (if negative then -magnitude else magnitude)

example : @parse Floats.exact " -1_2.50e-1 " = some (.finite (-5 / 4)) ∧ @parse Floats.exact "1.e" = none ∧
    @parse Floats.exact "-Inf" = some (.infinity true) := by decide +kernel

end Double

def Json.toFloat [Floats] : Json → Except Failure Double
  | .int value =>
      if Double.overflow ≤ |(value : Rat)| then .error .overflowError else .ok (Floats.rounded value)
  | .bool value => .ok (.finite (if value then 1 else 0))
  | .float value => .ok value
  | .str text =>
      match Double.parse text with
      | some value => .ok value
      | none => .error .valueError
  | .null | .arr _ | .obj _ => .error .typeError

end Python
