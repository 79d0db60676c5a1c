import Formula.Double.Rounding
set_option autoImplicit false

/-!
# Rounding to integers

Not-a-number and the infinities are returned as they are.  The ceiling and the floor of a
finite double are integers, and a zero among them is positive whatever it came from;
`roundHalfAway` keeps the sign of its argument.
-/

namespace Formula

namespace Double

/-- The double nearest to an integer; zero is positive. -/
def ofInt (i : Int) : Double := ofSignedDyadic false i 0

/-- The greatest integer that is not greater than `±significand * 2 ^ exponent`. -/
def floorOf (negative : Bool) (significand : Nat) (exponent : Int) : Int :=
  let split := splitInteger significand exponent
  if negative then
    if split.2 = 0 then -(split.1 : Int) else -(split.1 : Int) - 1
  else split.1

/-- The least integer that is not less than `±significand * 2 ^ exponent`. -/
def ceilOf (negative : Bool) (significand : Nat) (exponent : Int) : Int :=
  let split := splitInteger significand exponent
  if negative then -(split.1 : Int)
  else if split.2 = 0 then split.1 else split.1 + 1

/-- The integer part of `±significand * 2 ^ exponent`, with its sign. -/
def truncateOf (negative : Bool) (significand : Nat) (exponent : Int) : Int :=
  signed negative (splitInteger significand exponent).1

/-- The greatest integer that is not greater. -/
def floor : Double → Double
  | .finite negative significand exponent _ => ofInt (floorOf negative significand exponent)
  | x => x

/-- The least integer that is not less. -/
def ceil : Double → Double
  | .finite negative significand exponent _ => ofInt (ceilOf negative significand exponent)
  | x => x

/-- The double from which on all doubles are integers. -/
def leastAlwaysIntegral : Double := ofNat (twoTo 52)

/-- One half. -/
def half : Double := ofRatio false 1 2

/-- The nearest integer, a half going away from zero.  Adding a half and taking the floor
would round twice, so the fraction is compared with a half instead. -/
def roundHalfAway (x : Double) : Double :=
  match x with
  | .finite negative _ _ _ =>
      let magnitude := x.abs
      if magnitude.lt leastAlwaysIntegral then
        let truncated := magnitude.integerPart
        let fraction := magnitude.sub (ofNat truncated)
        let rounded := if half.le fraction then truncated + 1 else truncated
        (ofNat rounded).withSign negative
      else x
  | x => x

end Double

end Formula
