import Formula.Double.Rounding
set_option autoImplicit false

/-!
# The decimal digits of a double

Two ways to choose the digits that a double is written with.  `shortest` takes the fewest
digits that are read back as the same double, and among those the nearest to it.
`rounded` takes a given number of digits and rounds to the nearest, half to even.  Both
compare exact products of natural numbers.
-/

namespace Formula

namespace Double

/-- A positive decimal `coefficient * 10 ^ exponent`. -/
structure Decimal where
  coefficient : Nat
  exponent : Int
  deriving DecidableEq, Repr, Inhabited

/-- Is `significand * 2 ^ exponent` at least `10 ^ power`? -/
def reachesPower (significand : Nat) (exponent power : Int) : Bool :=
  tenTo power.toNat * twoTo (-exponent).toNat
    ≤ significand * twoTo exponent.toNat * tenTo (-power).toNat

/-- The number of decimal places before the point: the least power of ten that
`significand * 2 ^ exponent` does not reach.  The logarithm gives it up to one. -/
def decimalPlaces (significand : Nat) (exponent : Int) : Int :=
  let guess := ((Nat.log2 significand : Int) + exponent) * 30103 / 100000
  if !reachesPower significand exponent guess then guess
  else if !reachesPower significand exponent (guess + 1) then guess + 1
  else guess + 2

/-- A double's exact value and the ends of the interval of numbers that are read as it,
in units of a quarter of its last bit. -/
structure Interval where
  low : Nat
  value : Nat
  high : Nat
  /-- Are the ends themselves read as the double? -/
  closed : Bool
  deriving DecidableEq, Repr

/-- The interval around `significand * 2 ^ exponent`.  Below a power of two the neighbours
are half as far apart. -/
def interval (significand : Nat) (exponent : Int) : Interval where
  low := 4 * significand - (if significand = 0x10000000000000 ∧ exponent ≠ -1074 then 1 else 2)
  value := 4 * significand
  high := 4 * significand + 2
  closed := significand % 2 = 0

/-- A grid of decimals with a unit in the last place: one unit is `unit / quarter` quarters
of the double's last bit. -/
structure Grid where
  unit : Nat
  quarter : Nat
  deriving DecidableEq, Repr

/-- The grid of multiples of `10 ^ power`, for a double whose last bit is `2 ^ exponent`. -/
def grid (exponent power : Int) : Grid where
  unit := tenTo power.toNat * twoTo (2 - exponent).toNat
  quarter := tenTo (-power).toNat * twoTo (exponent - 2).toNat

namespace Grid

/-- Does `count` units lie in the interval? -/
def inside (g : Grid) (i : Interval) (count : Nat) : Bool :=
  let point := count * g.unit
  if i.closed then i.low * g.quarter ≤ point && point ≤ i.high * g.quarter
  else i.low * g.quarter < point && point < i.high * g.quarter

/-- The point of the grid that is read as the double and nearest to it; of two equally near
ones the even one. -/
def nearestInside (g : Grid) (i : Interval) : Option Nat :=
  let below := i.value * g.quarter / g.unit
  match g.inside i below, g.inside i (below + 1) with
  | true, true => some (divideToEven (i.value * g.quarter) g.unit)
  | true, false => some below
  | false, true => some (below + 1)
  | false, false => none

end Grid

/-- Tries grids with more and more digits, `count` of them. -/
def shortestFrom (i : Interval) (exponent places : Int) : (count : Nat) → (digits : Nat) → Decimal
  | 0, digits => ⟨i.value, places - digits⟩
  | count + 1, digits =>
      match (grid exponent (places - digits)).nearestInside i with
      | some coefficient => ⟨coefficient, places - digits⟩
      | none => shortestFrom i exponent places count (digits + 1)

/-- The shortest decimal that is read back as `significand * 2 ^ exponent`, which is not
zero.  Seventeen digits always suffice. -/
def shortest (significand : Nat) (exponent : Int) : Decimal :=
  shortestFrom (interval significand exponent) exponent
    (decimalPlaces significand exponent) 17 1

/-- The decimal with the given number of digits that is nearest to
`significand * 2 ^ exponent`, which is not zero. -/
def rounded (digits : Nat) (significand : Nat) (exponent : Int) : Decimal :=
  let power := decimalPlaces significand exponent - digits
  let g := grid exponent power
  ⟨divideToEven (4 * significand * g.quarter) g.unit, power⟩

end Double

end Formula
