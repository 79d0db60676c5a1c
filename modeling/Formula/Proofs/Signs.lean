import Formula.Proofs.Extremes
import Formula.Proofs.Rounding
set_option autoImplicit false

/-!
# Signs of rounded numbers

A number that is rounded to an integer should be left as it is if it is one, and a zero should have
the sign of the number that it was rounded from, for a division by it tells the two zeros apart
(`Double.KeepsSign`).  Rounding to the nearest integer keeps the sign.  Rounding up and down goes by
way of an integer, which has no sign if it is zero: so the sign is lost exactly if a negative number
is rounded to zero (`keepsSign_ofInt_iff`).
-/

namespace Formula

namespace Double

/-- Rounded to the integer `y`, the number `x` keeps its sign: it is left as it is if it is an
integer, infinite or not-a-number; a zero that it becomes has its sign; and divided by this zero,
another number gives the infinity of the sign that it would have to have. -/
structure KeepsSign (x y : Double) : Prop where
  unchanged : (x.isFinite = false ∨ ∃ n : Nat, x.magnitude = n) → y = x
  zero : y.isZero = true → y.isNegative = x.isNegative
  quotient : y.isZero = true → ∀ z : Double, z.isZero = false → z.isNaN = false →
    Arithmetic.divide z y = .ok (.infinity (z.isNegative != x.isNegative))

/-- Divided by a zero, a number other than zero gives the infinity of the product of the signs. -/
theorem divide_zero {y z : Double} (hy : y.isZero = true) (hz : z.isZero = false)
    (number : z.isNaN = false) :
    Arithmetic.divide z y = .ok (.infinity (z.isNegative != y.isNegative)) := by
  rw [Arithmetic.divide, hy, hz, number]
  rfl

theorem KeepsSign.of_zero {x y : Double}
    (unchanged : (x.isFinite = false ∨ ∃ n : Nat, x.magnitude = n) → y = x)
    (zero : y.isZero = true → y.isNegative = x.isNegative) : KeepsSign x y where
  unchanged := unchanged
  zero := zero
  quotient hy z hz number := by rw [divide_zero hy hz number, zero hy]

/-- What is no finite number is left as it is. -/
theorem keepsSign_self {x : Double} (hx : x.isFinite = false) : KeepsSign x x := by
  refine .of_zero (fun _ => rfl) fun hzero => ?_
  cases x with
  | finite _ _ _ _ => cases hx
  | _ => cases hzero

/-- Rounding to the nearest integer keeps the sign. -/
theorem RoundsHalfAway.keepsSign {x y : Double} (hx : x.isFinite = true) (h : RoundsHalfAway x y) :
    KeepsSign x y := by
  refine .of_zero (fun unchanged => ?_) fun _ => h.sign
  rcases unchanged with infinite | ⟨n, hn⟩
  · rw [hx] at infinite
    cases infinite
  · refine eq_of_magnitude h.finite hx h.sign ?_
    rw [h.magnitude, hn, floor_add_half, Int.fract_natCast, if_neg (by norm_num), Int.floor_natCast,
      Int.cast_natCast]

/-! ## By way of an integer -/

theorem isZero_iff {x : Double} (hx : x.isFinite = true) : x.isZero = true ↔ x.value = 0 := by
  cases x with
  | finite negative m e canonical =>
      have hunit : (2 : ℚ) ^ e ≠ 0 := zpow_ne_zero e two_ne_zero
      rw [value_finite, mul_eq_zero, or_iff_left hunit, Int.cast_eq_zero, isZero, beq_iff_eq]
      cases negative <;> simp [signed]
  | _ => cases hx

/-- Doubles of one value other than zero have one sign. -/
theorem isNegative_of_value_ne {x y : Double} (h : x.value = y.value) (hne : x.value ≠ 0) :
    x.isNegative = y.isNegative := by
  have hx := x.magnitude_nonneg
  have hy := y.magnitude_nonneg
  rw [value, value] at h
  rw [value] at hne
  cases hxs : x.isNegative <;> cases hys : y.isNegative <;>
    simp only [hxs, hys, if_true, if_false, Bool.false_eq_true] at h hne ⊢
  · exact (hne (by linarith)).elim
  · exact (hne (by linarith)).elim

/-- An integer has no other integer next to it. -/
theorem value_eq_of_adjacent {x : Double} {n : Nat} (hn : x.magnitude = n) {i : Int}
    (h : |(i : ℚ) - x.value| < 1) : x.value = i := by
  obtain ⟨j, hj⟩ : ∃ j : Int, x.value = j := by
    rw [value, hn]
    split
    · exact ⟨-n, by rw [Int.cast_neg, Int.cast_natCast]⟩
    · exact ⟨n, by rw [Int.cast_natCast]⟩
  rw [hj, ← Int.cast_sub, ← Int.cast_abs] at h
  have hnone : |i - j| < 1 := by exact_mod_cast h
  rw [hj, Int.sub_eq_zero.1 (Int.abs_lt_one_iff.1 hnone)]

/-- **An integer next to a number keeps its sign** as a double, unless the number is negative and
the integer is zero. -/
theorem keepsSign_ofInt_iff {x : Double} (hx : x.isFinite = true) {i : Int}
    (h : |(i : ℚ) - x.value| < 1) : KeepsSign x (ofInt i) ↔ ¬ (x.isNegative = true ∧ i = 0) := by
  have hexact := isExactly_ofInt (representable_of_adjacent hx h)
  have hzero : (ofInt i).isZero = true ↔ i = 0 := by
    rw [isZero_iff hexact.1, hexact.2, Int.cast_eq_zero]
  constructor
  · rintro hkeeps ⟨hnegative, rfl⟩
    have hsign := hkeeps.zero (hzero.2 rfl)
    rw [hnegative] at hsign
    cases hsign
  · intro hnot
    have sign_zero (hi : i = 0) : (ofInt i).isNegative = x.isNegative := by
      rw [Bool.eq_false_iff.2 fun hnegative => hnot ⟨hnegative, hi⟩, hi]
      rfl
    refine .of_zero (fun unchanged => ?_) fun hy => sign_zero (hzero.1 hy)
    rcases unchanged with infinite | ⟨n, hn⟩
    · rw [hx] at infinite
      cases infinite
    · have hvalue := value_eq_of_adjacent hn h
      refine eq_of_magnitude hexact.1 hx ?_ ?_
      · by_cases hi : i = 0
        · exact sign_zero hi
        · refine isNegative_of_value_ne (by rw [hexact.2, hvalue]) ?_
          rw [hexact.2]
          exact Int.cast_ne_zero.2 hi
      · rw [← abs_value, ← abs_value, hexact.2, hvalue]

theorem floorOf_eq (negative : Bool) {m : Nat} {e : Int} (canonical : Canonical m e) :
    floorOf negative m e = ⌊(finite negative m e canonical).value⌋ := by
  obtain ⟨hlow, hhigh⟩ := fraction_bounds m e
  have hscale := cast_twoTo_pos (-e).toNat
  rw [eq_comm, Int.floor_eq_iff, value_finite, signed, floorOf]
  cases negative with
  | false =>
      simp only [Bool.false_eq_true, if_false, Int.cast_natCast, cast_splitInteger]
      constructor <;> linarith
  | true =>
      simp only [if_true, Int.cast_neg, Int.cast_natCast, neg_mul, cast_splitInteger]
      split
      · next hrest =>
        rw [hrest, Nat.cast_zero, zero_div, Int.cast_neg, Int.cast_natCast]
        constructor <;> linarith
      · next hrest =>
        have hpositive : (0 : ℚ) < (splitInteger m e).2 / twoTo (-e).toNat :=
          div_pos (Nat.cast_pos.2 (Nat.pos_of_ne_zero hrest)) hscale
        rw [Int.cast_sub, Int.cast_neg, Int.cast_natCast, Int.cast_one]
        constructor <;> linarith

/-- Rounding up is rounding down the number of the opposite sign. -/
theorem ceilOf_eq_neg_floorOf (negative : Bool) (m : Nat) (e : Int) :
    ceilOf negative m e = -floorOf (!negative) m e := by
  cases negative with
  | false =>
      simp only [ceilOf, floorOf, Bool.not_false, if_true, Bool.false_eq_true, if_false]
      split <;> omega
  | true => rfl

theorem ceilOf_eq (negative : Bool) {m : Nat} {e : Int} (canonical : Canonical m e) :
    ceilOf negative m e = ⌈(finite negative m e canonical).value⌉ := by
  have hneg : (finite (!negative) m e canonical).value = -(finite negative m e canonical).value :=
    value_neg (finite negative m e canonical)
  rw [ceilOf_eq_neg_floorOf, floorOf_eq _ canonical, hneg, Int.floor_neg, Int.neg_neg]

/-- The only negative number whose greatest integer below is zero is the negative zero. -/
theorem floor_value_eq_zero_iff {x : Double} (hx : x.isFinite = true) :
    x.isNegative = true ∧ ⌊x.value⌋ = 0 ↔ x = .zero true := by
  have hmagnitude := x.magnitude_nonneg
  constructor
  · rintro ⟨hnegative, hfloor⟩
    have hlow := Int.floor_le x.value
    rw [hfloor, Int.cast_zero, value, if_pos hnegative] at hlow
    refine eq_of_magnitude hx rfl hnegative ?_
    rw [zero, magnitude_finite, Nat.cast_zero, zero_mul]
    linarith
  · rintro rfl
    refine ⟨rfl, ?_⟩
    rw [zero, value_finite, show signed true 0 = 0 from rfl, Int.cast_zero, zero_mul,
      Int.floor_zero]

/-- The negative numbers whose least integer above is zero are those between minus one and zero. -/
theorem ceil_value_eq_zero_iff {x : Double} (hnegative : x.isNegative = true) :
    ⌈x.value⌉ = 0 ↔ x.magnitude < 1 := by
  have hmagnitude := x.magnitude_nonneg
  rw [Int.ceil_eq_iff, value, if_pos hnegative]
  constructor
  · rintro ⟨hlow, _⟩
    rw [Int.cast_zero] at hlow
    linarith
  · intro hlt
    rw [Int.cast_zero]
    constructor <;> linarith

end Double

/-! ## The built-in functions -/

/-- The ways to round to integers that have a built-in function. -/
inductive Rounding where
  | nearest
  | up
  | down
  deriving DecidableEq, Repr, Inhabited

namespace Rounding

open Double (KeepsSign)

/-- The name of the built-in function. -/
def name : Rounding → String
  | .nearest => "round"
  | .up => "ceil"
  | .down => "floor"

/-- The integer that an exact number is rounded to. -/
def exact : Rounding → ℚ → Int
  | .nearest, r => if 0 ≤ r then ⌊r + 1 / 2⌋ else -⌊-r + 1 / 2⌋
  | .up, r => ⌈r⌉
  | .down, r => ⌊r⌋

/-- The double `y` is the exact integer that `x` is rounded to, or `x` itself if it is infinite or
not-a-number. -/
def Gives (rounding : Rounding) (x y : Double) : Prop :=
  if x.isFinite = true then y.IsExactly (rounding.exact x.value) else y = x

/-- The numbers that lose their sign. -/
def LosesSign : Rounding → Double → Prop
  | .nearest, _ => False
  | .up, x => x.isFinite = true ∧ x.isNegative = true ∧ x.magnitude < 1
  | .down, x => x = .zero true

/-- The nearest integer, with the sign that it should have, is the exact one. -/
theorem gives_nearest {x y : Double} (hx : x.isFinite = true) (h : x.RoundsHalfAway y) :
    Gives .nearest x y := by
  have hmagnitude := x.magnitude_nonneg
  rw [Gives, if_pos hx]
  refine ⟨h.finite, ?_⟩
  rw [Double.value, h.sign, h.magnitude, exact, Double.value]
  cases hnegative : x.isNegative with
  | false => rw [if_neg Bool.false_ne_true, if_neg Bool.false_ne_true, if_pos hmagnitude]
  | true =>
      rw [if_pos rfl, if_pos rfl, neg_neg]
      split
      · next hnonneg =>
        have hzero : x.magnitude = 0 := by linarith
        rw [hzero]
        norm_num
      · rw [Int.cast_neg]

/-- What is infinite or not-a-number is given as it is, and keeps its sign. -/
theorem gives_infinite {rounding : Rounding} {x : Double} (hx : x.isFinite = false) :
    rounding.Gives x x ∧ (x.KeepsSign x ↔ ¬ rounding.LosesSign x) := by
  have hinfinite : ¬ x.isFinite = true := Bool.eq_false_iff.1 hx
  refine ⟨by rw [Gives, if_neg hinfinite], fun _ hloses => ?_, fun _ => Double.keepsSign_self hx⟩
  cases rounding with
  | nearest => exact hloses
  | up => exact hinfinite hloses.1
  | down =>
      rw [show x = .zero true from hloses] at hinfinite
      exact hinfinite rfl

/-- By way of an integer, the exact one is given, with its sign unless that is lost. -/
theorem gives_ofInt {rounding : Rounding} {x : Double} (hx : x.isFinite = true)
    (next : |(rounding.exact x.value : ℚ) - x.value| < 1)
    (loses : x.isNegative = true ∧ rounding.exact x.value = 0 ↔ rounding.LosesSign x) :
    rounding.Gives x (.ofInt (rounding.exact x.value)) ∧
      (x.KeepsSign (.ofInt (rounding.exact x.value)) ↔ ¬ rounding.LosesSign x) := by
  rw [Double.keepsSign_ofInt_iff hx next, Gives, if_pos hx]
  exact ⟨Double.isExactly_ofInt (Double.representable_of_adjacent hx next), not_congr loses⟩

/-! The three functions one by one: each of them has an answer, `y` below. -/

theorem gives_round (x : Double) : ∃ y, Arithmetic.roundHalfAway x = .ok y ∧ Gives .nearest x y ∧
    (x.KeepsSign y ↔ ¬ LosesSign .nearest x) := by
  cases hx : x.isFinite with
  | false =>
      refine ⟨x, ?_, gives_infinite hx⟩
      rw [Arithmetic.roundHalfAway, Arithmetic.ifFinite, hx]
      rfl
  | true =>
      obtain ⟨y, hy, hrounds⟩ :
          ∃ y, Arithmetic.roundHalfAway x = .ok y ∧ x.RoundsHalfAway y := by
        rcases lt_or_ge x.magnitude (2 ^ 52) with h | h
        · exact Arithmetic.roundHalfAway_of_lt hx h
        · exact ⟨x, Arithmetic.roundHalfAway_of_le hx h, Double.roundsHalfAway_self hx h⟩
      exact ⟨y, hy, gives_nearest hx hrounds, fun _ hloses => hloses, fun _ => hrounds.keepsSign hx⟩

theorem gives_ceil (x : Double) : ∃ y, Arithmetic.ceil x = .ok y ∧ Gives .up x y ∧
    (x.KeepsSign y ↔ ¬ LosesSign .up x) := by
  refine ⟨x.ceil, Arithmetic.ceil_eq x, ?_⟩
  cases x with
  | finite negative m e canonical =>
      have hlow := Int.le_ceil (Double.finite negative m e canonical).value
      have hhigh := Int.ceil_lt_add_one (Double.finite negative m e canonical).value
      rw [Double.ceil, Double.ceilOf_eq _ canonical]
      refine gives_ofInt rfl ?_ ?_
      · rw [exact, abs_lt]
        constructor <;> linarith
      · constructor
        · rintro ⟨hnegative, hzero⟩
          exact ⟨rfl, hnegative, (Double.ceil_value_eq_zero_iff hnegative).1 hzero⟩
        · rintro ⟨_, hnegative, hlt⟩
          exact ⟨hnegative, (Double.ceil_value_eq_zero_iff hnegative).2 hlt⟩
  | _ => exact gives_infinite rfl

theorem gives_floor (x : Double) : ∃ y, Arithmetic.floor x = .ok y ∧ Gives .down x y ∧
    (x.KeepsSign y ↔ ¬ LosesSign .down x) := by
  refine ⟨x.floor, Arithmetic.floor_eq x, ?_⟩
  cases x with
  | finite negative m e canonical =>
      have hlow := Int.floor_le (Double.finite negative m e canonical).value
      have hhigh := Int.lt_floor_add_one (Double.finite negative m e canonical).value
      rw [Double.floor, Double.floorOf_eq _ canonical]
      refine gives_ofInt rfl ?_ (Double.floor_value_eq_zero_iff rfl)
      rw [exact, abs_lt]
      constructor <;> linarith
  | _ => exact gives_infinite rfl

/-- The function of the symbol table. -/
def function : Rounding → Double → Except Fault Double
  | .nearest => Arithmetic.roundHalfAway
  | .up => Arithmetic.ceil
  | .down => Arithmetic.floor

theorem applyNamed_eq (rounding : Rounding) (x : Double) :
    Expr.applyNamed {} rounding.name [x] = Expr.ofArithmetic (rounding.function x) := by
  cases rounding <;> rfl

/-- **The sign of a rounded number.**  Each of the three functions gives an answer for every double:
the integer that the exact number is rounded to, or the argument itself if it is infinite or
not-a-number.  The answer of `round` always has the sign that it should have.  That of `floor` has
it unless the argument is the negative zero, and that of `ceil` unless it is a negative number above
minus one, the negative zero among them: these become the positive zero. -/
theorem applyNamed_keepsSign_iff (rounding : Rounding) (x : Double) :
    ∃ y, Expr.applyNamed {} rounding.name [x] = .ok y ∧ rounding.Gives x y ∧
      (x.KeepsSign y ↔ ¬ rounding.LosesSign x) := by
  have hanswer : ∃ y, rounding.function x = .ok y ∧ rounding.Gives x y ∧
      (x.KeepsSign y ↔ ¬ rounding.LosesSign x) := by
    cases rounding with
    | nearest => exact gives_round x
    | up => exact gives_ceil x
    | down => exact gives_floor x
  obtain ⟨y, hy, hgives⟩ := hanswer
  exact ⟨y, by rw [applyNamed_eq, hy]; rfl, hgives⟩

/-- The negative zero is an integer, but `floor` gives the positive one for it: divided by the two
of them, one gives different infinities. -/
theorem applyNamed_floor_zero :
    Expr.applyNamed {} "floor" [.zero true] = .ok (.zero false) ∧
      (Double.zero true).magnitude = (0 : Nat) ∧ ¬ (Double.zero true).KeepsSign (.zero false) ∧
      Arithmetic.divide .one (.zero false) = .ok (.infinity false) ∧
      Arithmetic.divide .one (.zero true) = .ok (.infinity true) := by
  refine ⟨?_, ?_, fun hkeeps => ?_, rfl, rfl⟩
  · have hfloor : (Double.zero true).floor = .zero false := by decide +kernel
    rw [show "floor" = name .down from rfl, applyNamed_eq, function, Arithmetic.floor_eq, hfloor]
    rfl
  · rw [Double.zero, Double.magnitude_finite, Nat.cast_zero, zero_mul]
  · exact absurd (hkeeps.zero rfl) (by decide)

end Rounding

end Formula
