/-!
# Finite double-precision numbers

A finite double is a sign, a significand below `2 ^ 53` and an exponent of two, both as small as
the format allows.  Every operation computes its exact value as a fraction of natural numbers and
rounds that once: `nearest` picks the nearest double, a tie goes to the even significand, and a
value beyond the largest double has none.
-/

namespace EditorBridge

/-- The number `significand * 2 ^ exponent`, with its sign. -/
structure Double where
  negative : Bool
  significand : Nat
  exponent : Int
deriving DecidableEq, Repr, Inhabited

namespace Double

/-- The exponent of the smallest doubles, and of zero. -/
def minExponent : Int := -1074

/-- The exponent of the largest doubles. -/
def maxExponent : Int := 971

/-- The significand of a double that is no power of two away from `minExponent` has this bit. -/
def leadingBit : Nat := 1 <<< 52

/-- Zero, with a sign. -/
def zero (negative : Bool) : Double :=
  ⟨negative, 0, minExponent⟩

/-- Whether the number is zero, of either sign. -/
def isZero (x : Double) : Bool :=
  x.significand == 0

/-- The number with the other sign. -/
def neg (x : Double) : Double :=
  { x with negative := !x.negative }

/-- The fraction `num / den * base ^ e`. -/
def scaled (num den base : Nat) (e : Int) : Nat × Nat :=
  if 0 ≤ e then (num * base.pow e.toNat, den) else (num, den * base.pow (-e).toNat)

/-- The natural number nearest to a fraction; a tie goes to the even one. -/
def roundHalfEven (num den : Nat) : Nat :=
  let whole := num / den
  let rest := num % den
  if 2 * rest < den then whole
  else if den < 2 * rest then whole + 1
  else whole + whole % 2

/-- The exponent at which a positive fraction has a significand of 53 bits, or the least one. -/
def exponentFor (num den : Nat) : Int :=
  let guess : Int := (num.log2 : Int) - (den.log2 : Int) - 53
  let (n, d) := scaled num den 2 (-guess)
  let exact := if n / d < 2 * leadingBit then guess else guess + 1
  max exact minExponent

/-- The double nearest to `num / den`; none if it is too large. -/
def nearest (negative : Bool) (num den : Nat) : Option Double :=
  if num = 0 then some (zero negative)
  else
    let e := exponentFor num den
    let (n, d) := scaled num den 2 (-e)
    let m := roundHalfEven n d
    -- Rounding up may reach the next power of two.
    let (m, e) := if m = 2 * leadingBit then (leadingBit, e + 1) else (m, e)
    if e ≤ maxExponent then some ⟨negative, m, e⟩ else none

/-- The double nearest to a natural number. -/
def ofNat? (n : Nat) : Option Double :=
  nearest false n 1

/-- The product, rounded. -/
def mul? (x y : Double) : Option Double :=
  let (num, den) := scaled (x.significand * y.significand) 1 2 (x.exponent + y.exponent)
  nearest (x.negative != y.negative) num den

/-- The quotient by a number other than zero, rounded. -/
def div? (x y : Double) : Option Double :=
  let (num, den) := scaled x.significand y.significand 2 (x.exponent - y.exponent)
  nearest (x.negative != y.negative) num den

end Double

end EditorBridge
