import EditorBridge.Number.Double

/-!
# The shortest decimal text of a double

`shortestDigits` gives the fewest decimal digits that read back as the same double, and of those
the nearest to it.  The interval of reals that round to the double is known exactly (its ends
belong to it iff the significand is even), and for 1, 2, … 17 digits the two neighbours of the
value on that decimal grid are tested against it; the first grid with a hit wins.

`Double.text` lays the digits out: positional notation from `1e-5` up to `1e16`, with at least
one digit on each side of the point, and beyond that one digit before the point and an exponent
with its sign.
-/

namespace EditorBridge

/-- The number `digits * 10 ^ exponent`. -/
structure Decimal where
  digits : Nat
  exponent : Int
deriving DecidableEq, Repr

namespace Decimal

/-- The same number without trailing zeros among its digits, for at most `fuel` of them. -/
def stripZeros : Nat → Decimal → Decimal
  | 0, d => d
  | fuel + 1, d =>
    if d.digits % 10 = 0 ∧ d.digits ≠ 0 then stripZeros fuel ⟨d.digits / 10, d.exponent + 1⟩ else d

/-- How many decimal digits a natural number has. -/
def width (n : Nat) : Nat :=
  (Nat.toDigits 10 n).length

end Decimal

namespace Double

/-- The reals that round to a positive double: the ends and the value over one denominator. -/
structure Span where
  low : Nat
  value : Nat
  high : Nat
  den : Nat
  closed : Bool

/-- The span of a positive double.  Below a power of two the doubles lie twice as close. -/
def span (x : Double) : Span :=
  let below := if x.significand = leadingBit ∧ minExponent < x.exponent then 1 else 2
  let part (n : Nat) := (scaled n 1 2 (x.exponent - 2)).1
  { low := part (4 * x.significand - below)
    value := part (4 * x.significand)
    high := part (4 * x.significand + 2)
    den := (scaled 1 1 2 (x.exponent - 2)).2
    closed := x.significand % 2 == 0 }

/-- The span measured in units of `10 ^ e`. -/
def Span.inUnits (s : Span) (e : Int) : Span :=
  let part (n : Nat) := (scaled n s.den 10 (-e)).1
  { s with low := part s.low, value := part s.value, high := part s.high
           den := (scaled 1 s.den 10 (-e)).2 }

/-- Whether a whole number of units lies in the span. -/
def Span.holds (s : Span) (n : Nat) : Bool :=
  if s.closed then s.low ≤ n * s.den && n * s.den ≤ s.high
  else s.low < n * s.den && n * s.den < s.high

/-- The decimal exponent of the first digit of a span's value. -/
def Span.magnitude (s : Span) : Int :=
  let guess : Int := (Decimal.width s.value : Int) - (Decimal.width s.den : Int)
  let (n, d) := scaled s.value s.den 10 (-guess)
  if d ≤ n then guess else guess - 1

/-- The neighbour of the value among the numbers of `count` digits that lies in the span; of two
the nearer, and of two equally near the even one. -/
def Span.onGrid (s : Span) (count : Nat) : Option Decimal :=
  let e := s.magnitude - (count : Int) + 1
  let u := s.inUnits e
  let floor := u.value / u.den
  -- The neighbours are `floor` and `floor + 1`; the nearer is tried before the other.
  let nearer := roundHalfEven u.value u.den
  let other := if nearer = floor then floor + 1 else floor
  if u.holds nearer then some ⟨nearer, e⟩
  else if u.holds other then some ⟨other, e⟩
  else none

/-- The fewest digits that read back as a positive double, without trailing zeros. -/
def shortestDigits (x : Double) : Decimal :=
  let s := x.span
  let found := (List.range 17).findSome? fun n => s.onGrid (n + 1)
  Decimal.stripZeros 400 (found.getD ⟨0, 0⟩)

/-- The least position of the point, counted from before the first digit, that is written in
positional notation. -/
def leastPoint : Int := -4

/-- The greatest position of the point that is written in positional notation. -/
def greatestPoint : Int := 16

/-- The text of digits with the point after the first `point` of them, or as many places before
them. -/
def positional (digits : List Char) (point : Int) : List Char :=
  if point ≤ 0 then
    ['0', '.'] ++ List.replicate (-point).toNat '0' ++ digits
  else
    -- Places between the digits and the point are filled with zeros.
    let whole := digits.take point.toNat
    let fraction := digits.drop point.toNat
    whole ++ List.replicate (point.toNat - whole.length) '0' ++ ['.'] ++
      (if fraction.isEmpty then ['0'] else fraction)

/-- The text of digits with the point after the first one and an exponent of ten. -/
def scientific (digits : List Char) (point : Int) : List Char :=
  let e := point - 1
  digits.take 1 ++ (if digits.length ≤ 1 then [] else '.' :: digits.drop 1) ++
    ['e', if e < 0 then '-' else '+'] ++ Nat.toDigits 10 e.natAbs

/-- The shortest text that reads back as the number. -/
def text (x : Double) : List Char :=
  let sign := if x.negative then ['-'] else []
  if x.isZero then sign ++ ['0', '.', '0']
  else
    let d := x.shortestDigits
    let digits := Nat.toDigits 10 d.digits
    let point := d.exponent + digits.length
    sign ++
      (if leastPoint ≤ point ∧ point ≤ greatestPoint then positional digits point
       else scientific digits point)

end Double

end EditorBridge
