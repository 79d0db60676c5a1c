import Formula.Arithmetic
import Formula.Proofs.Integers
set_option autoImplicit false

/-!
# Guarded arithmetic has a value everywhere

No guarded operation lets a refusal of the library through, and what it answers is the operation
on doubles itself.  Quotient, power and square root only need their cases.  Where an integer is
made on the way, the point is that it is small enough to become a double again.
-/

namespace Formula

namespace Double

theorem lt_zero_finite (negative : Bool) {m : Nat} {e : Int} (canonical : Canonical m e) :
    (finite negative m e canonical).lt (zero false) = (negative && decide (m ≠ 0)) := by
  have hscale : 0 < twoTo (e - min e (-1074)).toNat := twoTo_pos _
  have hvalue : (0 : Int) ≤ m * twoTo (e - min e (-1074)).toNat :=
    Int.mul_nonneg (Int.natCast_nonneg _) (Int.natCast_nonneg _)
  by_cases hm : m = 0
  · cases negative <;> simp [zero, lt, dyadicLt, signed, hm]
  · have hpos : (0 : Int) < m * twoTo (e - min e (-1074)).toNat :=
      Int.mul_pos (by omega) (by omega)
    have hneg : -(m : Int) * twoTo (e - min e (-1074)).toNat < 0 := by
      rw [Int.neg_mul]
      omega
    cases negative <;> simp [zero, lt, dyadicLt, signed, hm] <;> omega

theorem lt_zero_of_isZero_false {x : Double} (hx : x.isFinite = true) (h : x.isZero = false) :
    x.lt (zero false) = x.isNegative := by
  cases x with
  | nan => cases hx
  | infinity _ => cases hx
  | finite negative m e canonical =>
      have hm : m ≠ 0 := by simpa [isZero] using h
      rw [lt_zero_finite]
      simp [isNegative, hm]

theorem one_eq : one = finite false 0x10000000000000 (-52)
    ⟨by decide, by decide, by decide, .inl (by decide)⟩ := by
  decide +kernel

theorem lt_one_of_negative {m : Nat} {e : Int} (canonical : Canonical m e) :
    (finite true m e canonical).lt one = true := by
  have hvalue : (0 : Int) ≤ m * twoTo (e - min e (-52)).toNat :=
    Int.mul_nonneg (Int.natCast_nonneg _) (Int.natCast_nonneg _)
  have hone : (0 : Int) < 0x10000000000000 * twoTo (-52 - min e (-52)).toNat :=
    Int.mul_pos (by decide) (Int.natCast_pos.2 (twoTo_pos _))
  rw [one_eq, lt, dyadicLt]
  simp only [signed, if_true, Bool.false_eq_true, if_false, Int.neg_mul, decide_eq_true_eq]
  exact Int.lt_of_le_of_lt (by omega) hone

/-! ## Powers -/

theorem ne_one_of_isZero {x : Double} (h : x.isZero = true) : (x == one) = false := by
  refine beq_false_of_ne fun heq => ?_
  rw [heq] at h
  exact absurd h (by decide +kernel)

/-- The power of two finite numbers. -/
theorem pow_finite {base exponent : Double} (hbase : base.isFinite = true)
    (hexponent : exponent.isFinite = true) :
    base.pow exponent = if exponent.isZero || base == one then one
      else if base.isZero then
        withPowerSign base exponent (if exponent.isNegative then .infinity false else zero false)
      else if base.isNegative && !exponent.isInteger then .nan
      else withPowerSign base exponent (powMagnitude base.abs exponent) := by
  cases base with
  | nan => cases hbase
  | infinity _ => cases hbase
  | finite negative m e canonical =>
      cases exponent with
      | nan => cases hexponent
      | infinity _ => cases hexponent
      | finite negative' m' e' canonical' =>
          unfold pow
          rfl

theorem isFinite_of_isZero {x : Double} (h : x.isZero = true) : x.isFinite = true := by
  cases x <;> first | rfl | cases h

theorem pow_pole {base exponent : Double} (hbase : base.isZero = true)
    (hexponent : exponent.isFinite = true) (h : exponent.lt (zero false) = true) :
    base.pow exponent = .infinity (base.isNegative && exponent.isOddInteger) := by
  cases exponent with
  | nan => cases hexponent
  | infinity _ => cases hexponent
  | finite negative m e canonical =>
      rw [lt_zero_finite, Bool.and_eq_true, decide_eq_true_eq] at h
      rw [pow_finite (isFinite_of_isZero hbase) hexponent, ne_one_of_isZero hbase, hbase]
      simp [isZero, isNegative, h.1, h.2, withPowerSign, withSign]

theorem lt_zero_of_pow_infinity {base exponent : Double} {negative : Bool}
    (hbase : base.isZero = true) (hexponent : exponent.isFinite = true)
    (h : base.pow exponent = .infinity negative) : exponent.lt (zero false) = true := by
  rw [pow_finite (isFinite_of_isZero hbase) hexponent, ne_one_of_isZero hbase, hbase] at h
  cases hzero : exponent.isZero with
  | true =>
      rw [hzero, Bool.true_or, if_pos rfl, one_eq] at h
      cases h
  | false =>
      rw [lt_zero_of_isZero_false hexponent hzero]
      cases hsign : exponent.isNegative with
      | true => rfl
      | false =>
          rw [hzero, hsign] at h
          cases h

theorem sign_of_pow_infinity {base exponent : Double} {negative : Bool}
    (hbase : base.isFinite = true) (hexponent : exponent.isFinite = true)
    (h : base.pow exponent = .infinity negative) :
    negative = (base.isNegative && exponent.isOddInteger) := by
  have hsigned : ∀ x : Double, withPowerSign base exponent x = .infinity negative →
      negative = (base.isNegative && exponent.isOddInteger) := by
    intro x hx
    cases x with
    | infinity _ => exact (Double.infinity.inj hx).symm
    | _ => cases hx
  rw [pow_finite hbase hexponent] at h
  split at h
  · rw [one_eq] at h
    cases h
  · split at h
    · exact hsigned _ h
    · split at h
      · cases h
      · exact hsigned _ h

theorem leastAlwaysIntegral_eq : leastAlwaysIntegral = finite false 0x10000000000000 0
    ⟨by decide, by decide, by decide, .inl (by decide)⟩ := by
  decide +kernel

theorem splitInteger_lt_of_lt {negative : Bool} {m : Nat} {e : Int} {canonical : Canonical m e}
    (h : (finite negative m e canonical).abs.lt leastAlwaysIntegral = true) :
    (splitInteger m e).1 < 0x20000000000000 := by
  have hm := canonical.lt_bound
  rw [splitInteger]
  split
  · rename_i he
    have hmin : min e 0 = 0 := by omega
    rw [leastAlwaysIntegral_eq, abs, withSign, lt, dyadicLt, hmin] at h
    simp only [signed, Bool.false_eq_true, if_false, Int.sub_zero, Int.sub_self, Int.toNat_zero,
      twoTo_zero, Int.natCast_one, Int.mul_one, decide_eq_true_eq, ← Int.natCast_mul] at h
    omega
  · have hwhole : m / twoTo (-e).toNat ≤ m := Nat.div_le_self _ _
    omega

theorem ofNat_greatestFactorial : ofNat greatestFactorial = finite false (170 * 0x200000000000) (-45)
    ⟨by decide, by decide, by decide, .inl (by decide)⟩ := by
  decide +kernel

theorem positive_of_factorialError? {x : Double} (h : x.factorialError? = none) :
    ∃ m e canonical n, x = .finite false m e canonical ∧ splitInteger m e = (n, 0) := by
  unfold factorialError? at h
  split at h
  · cases h
  · rename_i hone
    split at h
    · cases h
    · rename_i hintegral
      cases x with
      | nan => exact absurd rfl hintegral
      | infinity _ => exact absurd rfl hintegral
      | finite negative m e canonical =>
          have hrest : (splitInteger m e).2 = 0 := by simpa [isInteger] using hintegral
          cases negative with
          | false => exact ⟨m, e, canonical, (splitInteger m e).1, rfl, Prod.ext rfl hrest⟩
          | true => exact absurd (lt_one_of_negative canonical) hone

/-! ## Texts -/

theorem splitInteger_eq_zero {m : Nat} {e : Int} (h : (splitInteger m e).2 = 0) :
    (splitInteger m e).1 = 0 ↔ m = 0 := by
  have hvalue := scale_integral (Prod.ext rfl h : splitInteger m e = ((splitInteger m e).1, 0))
    (Int.le_refl (min e 0))
  have hleft := twoTo_pos (e - min e 0).toNat
  have hright := twoTo_pos (-min e 0).toNat
  constructor
  · intro hn
    rw [hn, Nat.zero_mul] at hvalue
    exact (Nat.mul_eq_zero.1 hvalue).resolve_right (Nat.ne_of_gt hleft)
  · intro hm
    rw [congrArg (· * twoTo (e - min e 0).toNat) hm, Nat.zero_mul] at hvalue
    exact (Nat.mul_eq_zero.1 hvalue.symm).resolve_right (Nat.ne_of_gt hright)

theorem toString_signed (negative : Bool) (n : Nat) :
    toString (signed negative n) = signedText (negative && n != 0) (Nat.toDigits 10 n) := by
  cases negative with
  | false => exact Nat.repr_eq_ofList_toDigits
  | true =>
      cases n with
      | zero => rfl
      | succ n =>
          have hint : toString (signed true (n + 1)) = "-" ++ (n + 1).repr := rfl
          have hsign : (true && n + 1 != 0) = true := rfl
          rw [hint, hsign, signedText, if_pos rfl, Nat.repr_eq_ofList_toDigits]
          exact String.ofList_append.symm

end Double

namespace Library

theorem double_eq {i : Int} (h : i.natAbs ≤ Double.greatestFinite) :
    double i = .ok (Double.ofInt i) := by
  rw [double, if_pos (Double.isFinite_ofInt h)]

theorem double_natCast {n : Nat} (h : n ≤ Double.greatestFinite) :
    double (n : Int) = .ok (Double.ofNat n) := by
  rw [double_eq (by rwa [Int.natAbs_natCast]), Double.ofInt_natCast]

theorem double_next {n : Nat} (h : n + 1 ≤ 0x20000000000000) (next : Bool) :
    double (if next = true then (n : Int) + 1 else n)
      = .ok (Double.ofNat (if next = true then n + 1 else n)) := by
  cases next with
  | false => exact double_natCast (Double.le_greatestFinite (by omega))
  | true => exact double_natCast (Double.le_greatestFinite h)

end Library

namespace Arithmetic

theorem divide_eq (x y : Double) : divide x y = .ok (x.div y) := by
  unfold divide Library.quotient
  cases hy : y.isZero with
  | false => rfl
  | true =>
      -- only a finite number is zero
      cases y with
      | nan => cases hy
      | infinity _ => cases hy
      | finite t n f _ =>
          have hn : n = 0 := by simpa [Double.isZero] using hy
          cases x with
          | nan => rfl
          | infinity s => simp [Double.isZero, Double.isNaN, Double.isNegative, Double.div]
          | finite s m e _ =>
              by_cases hm : m = 0
              · simp [Double.isZero, Double.div, hn, hm]
              · simp [Double.isZero, Double.isNaN, Double.isNegative, Double.div, hn, hm]

theorem sqrt_eq (x : Double) : sqrt x = .ok x.sqrt := by
  unfold sqrt Library.squareRoot
  cases h : x.lt (Double.zero false) with
  | false => rfl
  | true =>
      cases x with
      | nan => rfl
      | infinity negative =>
          cases negative with
          | false => cases h
          | true => rfl
      | finite negative m e canonical =>
          rw [Double.lt_zero_finite, Bool.and_eq_true, decide_eq_true_eq] at h
          simp [Double.sqrt, h.1, h.2]

theorem ifFinite_eq {round : Double → Except Fault Double} {value : Double → Double}
    (hfinite : ∀ negative m e canonical, round (.finite negative m e canonical)
      = .ok (value (.finite negative m e canonical)))
    (hnan : value .nan = .nan) (hinfinity : ∀ negative, value (.infinity negative) = .infinity negative)
    (x : Double) : ifFinite round x = .ok (value x) := by
  cases x with
  | nan => rw [hnan]; rfl
  | infinity negative => rw [hinfinity]; rfl
  | finite negative m e canonical => exact hfinite negative m e canonical

theorem floor_eq (x : Double) : floor x = .ok x.floor :=
  ifFinite_eq (fun negative _ _ canonical =>
    Library.double_eq (Double.floorOf_le negative canonical)) rfl (fun _ => rfl) x

theorem ceil_eq (x : Double) : ceil x = .ok x.ceil :=
  ifFinite_eq (fun negative _ _ canonical =>
    Library.double_eq (Double.ceilOf_le negative canonical)) rfl (fun _ => rfl) x

theorem roundFinite_eq (negative : Bool) {m : Nat} {e : Int} (canonical : Canonical m e) :
    roundFinite (.finite negative m e canonical)
      = .ok (Double.roundHalfAway (.finite negative m e canonical)) := by
  unfold roundFinite Double.roundHalfAway
  dsimp only
  split
  · rename_i hsmall
    have hwhole : (Double.splitInteger m e).1 + 1 ≤ 0x20000000000000 :=
      Double.splitInteger_lt_of_lt hsmall
    have hfloor : Library.floor (Double.finite negative m e canonical).abs
        = .ok ((Double.splitInteger m e).1 : Int) := rfl
    have hpart : (Double.finite negative m e canonical).abs.integerPart
        = (Double.splitInteger m e).1 := rfl
    have hsign : (Double.finite negative m e canonical).isNegative = negative := rfl
    rw [hfloor, hpart, hsign]
    dsimp only
    rw [Library.double_natCast (Double.le_greatestFinite (by omega))]
    dsimp only
    rw [Library.double_next hwhole]
  · rfl

theorem roundHalfAway_eq (x : Double) : roundHalfAway x = .ok x.roundHalfAway :=
  ifFinite_eq (fun negative _ _ canonical => roundFinite_eq negative canonical) rfl (fun _ => rfl) x

/-! ## Factorials -/

theorem factorial_eq {x : Double} (h : x.factorialError? = none) :
    ∃ y, factorial x = .ok y ∧ x.factorial = .ok y := by
  unfold factorial Double.factorial
  rw [h]
  dsimp only
  split
  · exact ⟨_, rfl, rfl⟩
  · rename_i hsmall
    obtain ⟨m, e, canonical, n, rfl, hsplit⟩ := Double.positive_of_factorialError? h
    have hwhole : (Double.splitInteger m e).1 = n := congrArg Prod.fst hsplit
    have hn : n ≤ Double.greatestFactorial := by
      rw [Double.ofNat_greatestFactorial, Double.lt_integral (k := 170) _ canonical (by decide)
        hsplit (by decide), decide_eq_true_eq] at hsmall
      exact Nat.le_of_not_lt hsmall
    have htruncate : Library.truncate (.finite false m e canonical) = .ok (n : Int) := by
      rw [← hwhole]
      rfl
    have hfactorial : Library.factorial (n : Int) = .ok (Double.natFactorial n : Int) := by
      rw [Library.factorial, if_neg (by omega), Int.toNat_natCast]
    have hpart : (Double.finite false m e canonical).integerPart = n := hwhole
    rw [htruncate, hpart]
    dsimp only
    rw [hfactorial]
    exact ⟨_, Library.double_natCast (Double.natFactorial_le_greatestFinite hn), rfl⟩

/-! ## Powers -/

theorem power_eq (base exponent : Double) : power base exponent = .ok (base.pow exponent) := by
  unfold power Library.power
  cases hfinite : base.isFinite && exponent.isFinite with
  | false => rfl
  | true =>
      rw [Bool.and_eq_true] at hfinite
      rw [if_pos rfl]
      cases hpow : base.pow exponent with
      | finite _ _ _ _ => rfl
      | nan =>
          -- a pole is no such case
          have hpole : (base.isZero && exponent.lt (Double.zero false)) = false := by
            refine Bool.eq_false_iff.2 fun hpole => ?_
            rw [Bool.and_eq_true] at hpole
            rw [Double.pow_pole hpole.1 hfinite.2 hpole.2] at hpow
            cases hpow
          simp [Fault.domain, Fault.value, hpole]
      | infinity negative =>
          have hsign := Double.sign_of_pow_infinity hfinite.1 hfinite.2 hpow
          cases hzero : base.isZero with
          | true =>
              have hpole := Double.lt_zero_of_pow_infinity hzero hfinite.2 hpow
              simp [Fault.domain, Fault.value, hpole, hsign, Bool.and_comm]
          | false =>
              have hbase := Double.lt_zero_of_isZero_false hfinite.1 hzero
              simp [Fault.range, Fault.overflow, hbase, hsign]

/-! ## Texts of answers -/

theorem answerText_eq (x : Double) : answerText x = .ok x.answerText := by
  unfold answerText Double.answerText
  split
  · rename_i h
    cases x with
    | nan => exact absurd h (by decide)
    | infinity _ => cases h
    | finite negative m e canonical =>
        rw [Bool.and_eq_true] at h
        have hrest : (Double.splitInteger m e).2 = 0 := by simpa [Double.isInteger] using h.1
        have hzero : ((Double.splitInteger m e).1 == 0) = (m == 0) :=
          Bool.eq_iff_iff.2 (by simpa using Double.splitInteger_eq_zero hrest)
        have htruncate : Library.truncate (.finite negative m e canonical)
            = .ok (Double.signed negative (Double.splitInteger m e).1) := rfl
        rw [htruncate]
        dsimp only [Double.isNegative, Double.isZero, Double.integerPart]
        rw [Double.toString_signed, bne, hzero]
  · rfl

end Arithmetic

end Formula
