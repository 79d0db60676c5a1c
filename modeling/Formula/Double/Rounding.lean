import Formula.Double.Basic
set_option autoImplicit false

/-!
# Rounding to the nearest double

Every arithmetic result is an exact number that is rounded once.  `ofRatio` takes an
exact quotient of natural numbers, chooses the exponent at which the quotient has 53 bits
(or the least exponent, where it has fewer), rounds to the nearest integer at that scale
with a half going to the even neighbour, and overflows to an infinity.
-/

namespace Formula

namespace Double

/-- The integer nearest to `n / d`; a half goes to the even neighbour. -/
def divideToEven (n d : Nat) : Nat :=
  let q := n / d
  let r := n % d
  if 2 * r < d then q
  else if d < 2 * r then q + 1
  else if q % 2 = 0 then q else q + 1

/-- The quotient `n / d` in units of `2 ^ exponent`, as numerator and denominator. -/
def scaled (n d : Nat) (exponent : Int) : Nat × Nat :=
  (n * twoTo (-exponent).toNat, d * twoTo exponent.toNat)

/-- The exponent at which `n / d`, neither being zero, has an integer part of 53 bits, or
the least exponent if that is greater. -/
def exponentFor (n d : Nat) : Int :=
  let guess : Int := max (-1074) ((Nat.log2 n : Int) - (Nat.log2 d : Int) - 53)
  let s := scaled n d guess
  if s.1 / s.2 < 0x20000000000000 then guess else guess + 1

/-- The double nearest to `n / d` with the given sign; `d` is not zero. -/
def ofRatio (negative : Bool) (n d : Nat) : Double :=
  if n = 0 then zero negative
  else
    let exponent := exponentFor n d
    let s := scaled n d exponent
    let significand := divideToEven s.1 s.2
    if significand = 0x20000000000000 then ofParts negative 0x10000000000000 (exponent + 1)
    else ofParts negative significand exponent

/-- The double nearest to `m * 2 ^ exponent`. -/
def ofDyadic (negative : Bool) (m : Nat) (exponent : Int) : Double :=
  ofRatio negative (m * twoTo exponent.toNat) (twoTo (-exponent).toNat)

/-- The double nearest to a natural number. -/
def ofNat (n : Nat) : Double := ofRatio false n 1

/-- The double nearest to the signed dyadic `a * 2 ^ exponent`; a zero gets the sign
`zeroNegative`. -/
def ofSignedDyadic (zeroNegative : Bool) (a : Int) (exponent : Int) : Double :=
  if a = 0 then zero zeroNegative else ofDyadic (decide (a < 0)) a.natAbs exponent

/-! ## Arithmetic -/

/-- The sum.  An exact zero is positive unless both terms are negative. -/
def add : Double → Double → Double
  | .nan, _ => .nan
  | _, .nan => .nan
  | .infinity s, .infinity t => if s = t then .infinity s else .nan
  | .infinity s, .finite _ _ _ _ => .infinity s
  | .finite _ _ _ _, .infinity t => .infinity t
  | .finite s m e _, .finite t n f _ =>
      let exponent := min e f
      ofSignedDyadic (s && t)
        (signed s m * twoTo (e - exponent).toNat + signed t n * twoTo (f - exponent).toNat)
        exponent

/-- The difference. -/
def sub (x y : Double) : Double := x.add y.neg

/-- The product. -/
def mul : Double → Double → Double
  | .nan, _ => .nan
  | _, .nan => .nan
  | .infinity s, .infinity t => .infinity (s != t)
  | .infinity s, .finite t n _ _ => if n = 0 then .nan else .infinity (s != t)
  | .finite s m _ _, .infinity t => if m = 0 then .nan else .infinity (s != t)
  | .finite s m e _, .finite t n f _ => ofDyadic (s != t) (m * n) (e + f)

/-- The quotient.  A number other than zero divided by a zero is infinite. -/
def div : Double → Double → Double
  | .nan, _ => .nan
  | _, .nan => .nan
  | .infinity _, .infinity _ => .nan
  | .infinity s, .finite t _ _ _ => .infinity (s != t)
  | .finite s _ _ _, .infinity t => zero (s != t)
  | .finite s m e _, .finite t n f _ =>
      if n = 0 then if m = 0 then .nan else .infinity (s != t)
      else
        let exponent := e - f
        ofRatio (s != t) (m * twoTo exponent.toNat) (n * twoTo (-exponent).toNat)

/-! ## Square root -/

/-- The integer square root, two bits of the number at a time. -/
def natSqrt (n : Nat) : Nat :=
  if n = 0 then 0
  else
    let r := 2 * natSqrt (n / 4)
    if (r + 1) * (r + 1) ≤ n then r + 1 else r
termination_by n
decreasing_by omega

/-- The square root; not-a-number for a negative number other than zero.  The root of the
significand is taken with at least 55 bits, and one more bit says whether it is exact, so
that rounding once gives the nearest double. -/
def sqrt : Double → Double
  | .nan => .nan
  | .infinity negative => if negative then .nan else .infinity false
  | .finite negative m e _ =>
      if m = 0 then zero negative
      else if negative then .nan
      else
        let even := e - (e % 2) - 112
        let radicand := m * twoTo (e - even).toNat
        let root := natSqrt radicand
        let sticky := if root * root = radicand then 0 else 1
        ofDyadic false (2 * root + sticky) (even / 2 - 1)

end Double

end Formula
