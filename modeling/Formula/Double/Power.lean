import Formula.Double.Bits
import Formula.Double.Rounding
set_option autoImplicit false

/-!
# Powers and factorials

The power is real valued: not-a-number for a negative base with an exponent that is no
integer, infinite where it overflows or divides by zero, with the sign that the base has
under an odd exponent.  Only the magnitude of the power of two finite doubles other than
zero is left to the processor's library; all other cases are decided here.
-/

namespace Formula

namespace Double

/-- One. -/
def one : Double := ofNat 1

/-- The power of a positive finite base and a finite exponent. -/
def powMagnitude (base exponent : Double) : Double :=
  ofBits ((Float.ofBits base.toBits).pow (Float.ofBits exponent.toBits)).toBits

/-- A double with the sign that the base has under an odd exponent. -/
def withPowerSign (base exponent magnitude : Double) : Double :=
  magnitude.withSign (base.isNegative && exponent.isOddInteger)

/-- The real power. -/
def pow (base exponent : Double) : Double :=
  if exponent.isZero || base == one then one
  else
    match base, exponent with
    | .nan, _ => .nan
    | _, .nan => .nan
    | base, .infinity exponentNegative =>
        if base.abs == one then one
        else if one.lt base.abs != exponentNegative then .infinity false
        else zero false
    | .infinity _, exponent =>
        withPowerSign base exponent
          (if exponent.isNegative then zero false else .infinity false)
    | base, exponent =>
        if base.isZero then
          withPowerSign base exponent
            (if exponent.isNegative then .infinity false else zero false)
        else if base.isNegative && !exponent.isInteger then .nan
        else withPowerSign base exponent (powMagnitude base.abs exponent)

/-- Why a factorial is refused. -/
inductive FactorialError where
  /-- The number is less than one. -/
  | belowOne (x : Double)
  /-- The number is no integer, infinite or not-a-number. -/
  | notInteger (x : Double)
  deriving DecidableEq, Repr

/-- The product of the numbers from one to `n`. -/
def natFactorial : Nat → Nat
  | 0 => 1
  | n + 1 => (n + 1) * natFactorial n

/-- The greatest integer whose factorial is a finite double. -/
def greatestFactorial : Nat := 170

/-- Why the number has no factorial, if it has none. -/
def factorialError? (x : Double) : Option FactorialError :=
  if x.lt one then some (.belowOne x)
  else if !x.isInteger then some (.notInteger x)
  else none

/-- The factorial of a positive integer, rounded once; infinite beyond 170. -/
def factorial (x : Double) : Except FactorialError Double :=
  match x.factorialError? with
  | some error => .error error
  | none =>
      if (ofNat greatestFactorial).lt x then .ok (.infinity false)
      else .ok (ofNat (natFactorial x.integerPart))

end Double

end Formula
