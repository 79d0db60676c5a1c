import Formula.Double.Integral
import Formula.Double.Power
import Formula.Double.Printer
import Formula.Fault
set_option autoImplicit false

/-!
# Guarded arithmetic

The operations that come with the processor and its library refuse some numbers: a zero to
divide by, an infinity of which an integer is to be made, a power that is too great.  These are
in `Library`.  The operations of the language, in `Arithmetic`, ask them only where they do not
refuse, or answer in their place.
-/

namespace Formula

namespace Library

/-- The quotient, which does not exist by zero. -/
def quotient (x y : Double) : Except Fault Double :=
  if y.isZero then .error .divisionByZero else .ok (x.div y)

/-- An integer made of a finite number. -/
def integer (convert : Bool → Nat → Int → Int) : Double → Except Fault Int
  | .nan => .error (.value "cannot convert float NaN to integer")
  | .infinity _ => .error (.overflow "cannot convert float infinity to integer")
  | .finite negative significand exponent _ => .ok (convert negative significand exponent)

/-- The greatest integer that is not greater. -/
def floor : Double → Except Fault Int := integer Double.floorOf

/-- The least integer that is not less. -/
def ceil : Double → Except Fault Int := integer Double.ceilOf

/-- The integer part, with its sign. -/
def truncate : Double → Except Fault Int := integer Double.truncateOf

/-- The double nearest to an integer. -/
def double (i : Int) : Except Fault Double :=
  if (Double.ofInt i).isFinite then .ok (Double.ofInt i)
  else .error (.overflow "int too large to convert to float")

/-- The square root, which a negative number does not have. -/
def squareRoot (x : Double) : Except Fault Double :=
  if x.lt (Double.zero false) then .error .domain else .ok x.sqrt

/-- The power.  Of two finite numbers it must be finite as well: that it is not has its reason in
the domain if it is no number or if the base is zero, and else in the range. -/
def power (base exponent : Double) : Except Fault Double :=
  if base.isFinite && exponent.isFinite then
    match base.pow exponent with
    | .nan => .error .domain
    | .infinity _ => if base.isZero then .error .domain else .error .range
    | x => .ok x
  else .ok (base.pow exponent)

/-- The factorial, which a negative number does not have. -/
def factorial (i : Int) : Except Fault Int :=
  if i < 0 then .error (.value "factorial() not defined for negative values")
  else .ok (Double.natFactorial i.toNat)

end Library

namespace Arithmetic

/-- The quotient.  By zero it is infinite, or no number if there is nothing to divide. -/
def divide (x y : Double) : Except Fault Double :=
  if !y.isZero then Library.quotient x y
  else if x.isZero || x.isNaN then .ok .nan
  else .ok (.infinity (x.isNegative != y.isNegative))

/-- The power.  Where the library refuses it, it is infinite at a pole and where it is too great,
and no number elsewhere. -/
def power (base exponent : Double) : Except Fault Double :=
  match Library.power base exponent with
  | .ok x => .ok x
  | .error fault =>
      if fault.name = "ValueError" then
        if base.isZero && exponent.lt (Double.zero false) then
          .ok (.infinity (exponent.isOddInteger && base.isNegative))
        else .ok .nan
      else if fault.name = "OverflowError" then
        .ok (.infinity (base.lt (Double.zero false) && exponent.isOddInteger))
      else .error fault

/-- The factorial of a number that has one; infinite beyond 170. -/
def factorial (x : Double) : Except Fault Double :=
  if (Double.ofNat Double.greatestFactorial).lt x then .ok (.infinity false)
  else
    match Library.truncate x with
    | .error fault => .error fault
    | .ok i =>
    match Library.factorial i with
    | .error fault => .error fault
    | .ok n => Library.double n

/-! ## Rounding to integers -/

/-- Rounds finite numbers only. -/
def ifFinite (round : Double → Except Fault Double) (x : Double) : Except Fault Double :=
  if x.isFinite then round x else .ok x

/-- Rounds by way of an integer. -/
def byInteger (convert : Double → Except Fault Int) (x : Double) : Except Fault Double :=
  match convert x with
  | .error fault => .error fault
  | .ok i => Library.double i

/-- The greatest integer that is not greater. -/
def floor : Double → Except Fault Double := ifFinite (byInteger Library.floor)

/-- The least integer that is not less. -/
def ceil : Double → Except Fault Double := ifFinite (byInteger Library.ceil)

/-- The nearest integer to a finite number, a half going away from zero. -/
def roundFinite (x : Double) : Except Fault Double :=
  let magnitude := x.abs
  if magnitude.lt Double.leastAlwaysIntegral then
    match Library.floor magnitude with
    | .error fault => .error fault
    | .ok truncated =>
    match Library.double truncated with
    | .error fault => .error fault
    | .ok whole =>
        let rounded := if Double.half.le (magnitude.sub whole) then truncated + 1 else truncated
        match Library.double rounded with
        | .error fault => .error fault
        | .ok y => .ok (y.withSign x.isNegative)
  else .ok x

/-- The nearest integer, a half going away from zero. -/
def roundHalfAway : Double → Except Fault Double := ifFinite roundFinite

/-- The square root; no number for a negative one. -/
def sqrt (x : Double) : Except Fault Double :=
  if x.lt (Double.zero false) then .ok .nan else Library.squareRoot x

/-! ## The text of an answer -/

/-- The text of an answer: integers up to `10 ^ 16` by way of an integer, other numbers in full. -/
def answerText (x : Double) : Except Fault String :=
  if x.isInteger && x.abs.le Double.greatestPlainInteger then
    match Library.truncate x with
    | .error fault => .error fault
    | .ok i => .ok (toString i)
  else .ok x.toText

end Arithmetic

end Formula
