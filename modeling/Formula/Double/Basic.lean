import Formula.Double.Scale
set_option autoImplicit false

/-!
# Doubles

A double is not-a-number, a signed infinity, or a signed dyadic `m * 2 ^ e`.  A finite
double has at most 53 bits of significand and an exponent from -1074 to 971, and all 53
bits are used unless the exponent is the least one.  Under that condition sign,
significand and exponent are determined by the number (and the sign of zero), so that
two doubles are the same exactly if their parts are.
-/

namespace Formula

/-- The significands and exponents of finite doubles, each number written in one way: the
significand is less than `2 ^ 53`, and at least `2 ^ 52` unless the exponent is least. -/
structure Canonical (significand : Nat) (exponent : Int) : Prop where
  lt_bound : significand < 0x20000000000000
  least_le : -1074 ≤ exponent
  le_greatest : exponent ≤ 971
  full_or_least : 0x10000000000000 ≤ significand ∨ exponent = -1074

instance (significand : Nat) (exponent : Int) : Decidable (Canonical significand exponent) :=
  if h : significand < 0x20000000000000 ∧ -1074 ≤ exponent ∧ exponent ≤ 971 ∧
      (0x10000000000000 ≤ significand ∨ exponent = -1074) then
    isTrue ⟨h.1, h.2.1, h.2.2.1, h.2.2.2⟩
  else isFalse fun c => h ⟨c.lt_bound, c.least_le, c.le_greatest, c.full_or_least⟩

/-- A double: not-a-number, an infinity, or `significand * 2 ^ exponent` with a sign. -/
inductive Double where
  | nan
  | infinity (negative : Bool)
  | finite (negative : Bool) (significand : Nat) (exponent : Int)
      (canonical : Canonical significand exponent)
  deriving DecidableEq, Repr

namespace Double

/-- The zero of the given sign. -/
def zero (negative : Bool) : Double :=
  .finite negative 0 (-1074) ⟨by decide, by decide, by decide, Or.inr rfl⟩

instance : Inhabited Double := ⟨zero false⟩

/-- The double with these parts; parts beyond the greatest finite double make an infinity. -/
def ofParts (negative : Bool) (significand : Nat) (exponent : Int) : Double :=
  if h : Canonical significand exponent then .finite negative significand exponent h
  else .infinity negative

theorem ofParts_of_canonical (negative : Bool) {significand : Nat} {exponent : Int}
    (h : Canonical significand exponent) :
    ofParts negative significand exponent = .finite negative significand exponent h := by
  simp [ofParts, h]

/-! ## Sign and class -/

/-- The sign bit; not-a-number counts as positive. -/
def isNegative : Double → Bool
  | .nan => false
  | .infinity negative => negative
  | .finite negative _ _ _ => negative

def isNaN : Double → Bool
  | .nan => true
  | _ => false

def isFinite : Double → Bool
  | .finite _ _ _ _ => true
  | _ => false

/-- Is it a zero of either sign? -/
def isZero : Double → Bool
  | .finite _ significand _ _ => significand == 0
  | _ => false

/-- The double with the given sign. -/
def withSign (negative : Bool) : Double → Double
  | .nan => .nan
  | .infinity _ => .infinity negative
  | .finite _ significand exponent canonical => .finite negative significand exponent canonical

/-- The double with the opposite sign. -/
def neg : Double → Double
  | .nan => .nan
  | .infinity negative => .infinity (!negative)
  | .finite negative significand exponent canonical =>
      .finite (!negative) significand exponent canonical

/-- The double without its sign. -/
def abs (x : Double) : Double := x.withSign false

theorem neg_neg (x : Double) : x.neg.neg = x := by
  cases x <;> simp [neg]

/-! ## Order -/

/-- The signed significand at the scale of `2 ^ exponent`. -/
def signed (negative : Bool) (significand : Nat) : Int :=
  if negative then -(significand : Int) else significand

/-- Is `a * 2 ^ p` less than `b * 2 ^ q`?  Both sides are brought to the lower exponent. -/
def dyadicLt (a : Int) (p : Int) (b : Int) (q : Int) : Bool :=
  a * twoTo (p - min p q).toNat < b * twoTo (q - min p q).toNat

/-- The order of numbers: not-a-number is comparable with nothing, and the two zeros are
equal. -/
def lt : Double → Double → Bool
  | .nan, _ => false
  | _, .nan => false
  | .infinity true, y => y != .infinity true
  | .infinity false, _ => false
  | .finite _ _ _ _, .infinity negative => !negative
  | .finite s m e _, .finite t n f _ => dyadicLt (signed s m) e (signed t n) f

/-- Are the numbers equal?  Not-a-number is not equal to itself. -/
def eq : Double → Double → Bool
  | .nan, _ => false
  | _, .nan => false
  | x, y => !x.lt y && !y.lt x

/-- Is the number at most the other? -/
def le (x y : Double) : Bool := x.lt y || x.eq y

/-! ## Integers among the doubles -/

/-- The integer part and the fraction of `significand * 2 ^ exponent`, the fraction being a
numerator over `2 ^ (-exponent)`. -/
def splitInteger (significand : Nat) (exponent : Int) : Nat × Nat :=
  if 0 ≤ exponent then (significand * twoTo exponent.toNat, 0)
  else (significand / twoTo (-exponent).toNat, significand % twoTo (-exponent).toNat)

/-- Is it a finite integer? -/
def isInteger : Double → Bool
  | .finite _ significand exponent _ => (splitInteger significand exponent).2 == 0
  | _ => false

/-- The integer part of the magnitude of a finite double. -/
def integerPart : Double → Nat
  | .finite _ significand exponent _ => (splitInteger significand exponent).1
  | _ => 0

/-- Is it a finite odd integer? -/
def isOddInteger (x : Double) : Bool := x.isInteger && x.integerPart % 2 == 1

end Double

end Formula
