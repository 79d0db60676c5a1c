import Formula.Proofs.Evaluation
import Mathlib
set_option autoImplicit false

/-!
# The least and the greatest argument

The numbers, infinities included, stand in a line, and equal numbers in the same place of it.  The
selection of the lesser or the greater of two numbers takes the lesser or the greater place, so a
fold over numbers does not depend on their order.  Not-a-number has no place: a selection keeps it
as its first argument and drops it as its second.  So the value of a fold depends on the order of
its arguments as far as it is not-a-number exactly if the first one is.
-/

namespace Formula

namespace Double

/-! ## The line of numbers -/

/-- The number that a dyadic with an exponent from -1074 on is in units of `2 ^ -1074`. -/
def units (a : Int) (exponent : Int) : Int := a * twoTo (exponent + 1074).toNat

/-- The place of a number in the line of numbers, which has an end on either side. -/
def place : Double → WithBot (WithTop Int)
  | .nan => ⊥
  | .infinity true => ⊥
  | .infinity false => ⊤
  | .finite negative significand exponent _ =>
      ((units (signed negative significand) exponent : WithTop Int) : WithBot (WithTop Int))

/-- Dyadics are compared in any unit that is small enough. -/
theorem dyadicLt_iff {a b p q : Int} (hp : -1074 ≤ p) (hq : -1074 ≤ q) :
    dyadicLt a p b q = true ↔ units a p < units b q := by
  have scaled (c e : Int) (h : min p q ≤ e) :
      units c e = c * twoTo (e - min p q).toNat * twoTo (min p q + 1074).toNat := by
    have hsum : (e + 1074).toNat = (e - min p q).toNat + (min p q + 1074).toNat := by omega
    rw [units, hsum, twoTo_add, Int.natCast_mul, Int.mul_assoc]
  have hunit : (0 : Int) < twoTo (min p q + 1074).toNat := Int.natCast_pos.2 (twoTo_pos _)
  rw [dyadicLt, decide_eq_true_iff, scaled a p (by omega), scaled b q (by omega)]
  exact (Int.mul_lt_mul_right hunit).symm

/-- One number is less than another if it stands before it. -/
theorem lt_iff_place {x y : Double} (hx : x.isNaN = false) (hy : y.isNaN = false) :
    x.lt y = true ↔ x.place < y.place := by
  cases x with
  | nan => cases hx
  | infinity negative =>
      cases y with
      | nan => cases hy
      | infinity negative' => cases negative <;> cases negative' <;> simp [lt, place]
      | finite _ _ _ _ => cases negative <;> simp [lt, place]
  | finite s m e canonical =>
      cases y with
      | nan => cases hy
      | infinity negative =>
          cases negative with
          | false =>
              have before_end := WithBot.coe_lt_coe.2 (WithTop.coe_lt_top (units (signed s m) e))
              exact ⟨fun _ => before_end, fun _ => rfl⟩
          | true => simp [lt, place]
      | finite t n f canonical' =>
          rw [lt, dyadicLt_iff canonical.least_le canonical'.least_le]
          simp only [place, WithBot.coe_lt_coe, WithTop.coe_lt_coe]

/-- Two numbers are equal if they stand in the same place. -/
theorem eq_iff_place {x y : Double} (hx : x.isNaN = false) (hy : y.isNaN = false) :
    x.eq y = true ↔ x.place = y.place := by
  have hdef : x.eq y = (!x.lt y && !y.lt x) := by
    cases x with
    | nan => cases hx
    | _ =>
        cases y with
        | nan => cases hy
        | _ => rfl
  rw [hdef, Bool.and_eq_true, Bool.not_eq_true', Bool.not_eq_true', ← Bool.not_eq_true,
    ← Bool.not_eq_true, lt_iff_place hx hy, lt_iff_place hy hx, not_lt, not_lt]
  exact ⟨fun h => le_antisymm h.2 h.1, fun h => ⟨h.ge, h.le⟩⟩

theorem eq_nan_iff {x : Double} : x = .nan ↔ x.isNaN = true := by
  cases x <;> simp [isNaN]

/-- Numerically the same, where not-a-number is the same as itself. -/
def Same (x y : Double) : Prop := x.eq y = true ∨ x.isNaN = true ∧ y.isNaN = true

end Double

namespace Handler

open Double (place)

/-! ## Selections -/

/-- A place in the line of numbers. -/
abbrev Place : Type := WithBot (WithTop Int)

/-- The function selects one of two numbers by their places, and its first argument if one of them
is not-a-number. -/
structure Selects (select : Double → Double → Double) (op : Place → Place → Place) : Prop where
  first : ∀ y, select .nan y = .nan
  second : ∀ x, select x .nan = x
  number : ∀ {x y}, x.isNaN = false → y.isNaN = false →
    (select x y).isNaN = false ∧ (select x y).place = op x.place y.place

theorem selects_lesser : Selects lesser min where
  first y := by cases y <;> rfl
  second x := by cases x <;> rfl
  number {x y} hx hy := by
    rw [lesser]
    split
    · next h =>
        rw [Double.lt_iff_place hy hx] at h
        exact ⟨hy, (min_eq_right h.le).symm⟩
    · next h =>
        rw [Double.lt_iff_place hy hx, not_lt] at h
        exact ⟨hx, (min_eq_left h).symm⟩

theorem selects_greater : Selects greater max where
  first y := by cases y <;> rfl
  second x := by cases x <;> rfl
  number {x y} hx hy := by
    rw [greater]
    split
    · next h =>
        rw [Double.lt_iff_place hx hy] at h
        exact ⟨hy, (max_eq_right h.le).symm⟩
    · next h =>
        rw [Double.lt_iff_place hx hy, not_lt] at h
        exact ⟨hx, (max_eq_left h).symm⟩

/-! ## Folds -/

/-- The places of the numbers in a list. -/
def places (xs : List Double) : List Place := (xs.filter fun x => !x.isNaN).map place

theorem places_nan (xs : List Double) : places (.nan :: xs) = places xs := rfl

theorem places_number {x : Double} (hx : x.isNaN = false) (xs : List Double) :
    places (x :: xs) = x.place :: places xs := by
  rw [places, List.filter_cons_of_pos (by rw [hx]; rfl)]
  rfl

section Folds

variable {select : Double → Double → Double} {op : Place → Place → Place}

theorem Selects.foldl_nan (h : Selects select op) (xs : List Double) :
    xs.foldl select .nan = .nan := by
  induction xs with
  | nil => rfl
  | cons x xs ih => rw [List.foldl_cons, h.first, ih]

/-- A fold that starts with a number takes the places of all numbers into account. -/
theorem Selects.foldl_number (h : Selects select op) (xs : List Double) :
    ∀ x : Double, x.isNaN = false → (xs.foldl select x).isNaN = false ∧
      (xs.foldl select x).place = (places xs).foldl op x.place := by
  induction xs with
  | nil => exact fun x hx => ⟨hx, rfl⟩
  | cons y xs ih =>
      intro x hx
      rw [List.foldl_cons]
      cases hy : y.isNaN with
      | true =>
          rw [Double.eq_nan_iff.2 hy, h.second, places_nan]
          exact ih x hx
      | false =>
          obtain ⟨hselect, hplace⟩ := h.number hx hy
          rw [places_number hy, List.foldl_cons, ← hplace]
          exact ih _ hselect

/-- Two folds over the same numbers in another order have the same value exactly if both or neither
of them starts with not-a-number.  The unit makes the first place a place like the others. -/
theorem Selects.same_iff [Std.Commutative op] [Std.Associative op] (h : Selects select op)
    {unit : Place} (hunit : ∀ a, op unit a = a) {x y : Double} {xs ys : List Double}
    (perm : (x :: xs).Perm (y :: ys)) :
    (xs.foldl select x).Same (ys.foldl select y) ↔ (x = .nan ↔ y = .nan) := by
  have hplaces : (places (x :: xs)).foldl op unit = (places (y :: ys)).foldl op unit :=
    ((perm.filter _).map place).foldl_op_eq
  rw [Double.Same, Double.eq_nan_iff, Double.eq_nan_iff]
  cases hx : x.isNaN with
  | true =>
      rw [Double.eq_nan_iff.2 hx, h.foldl_nan]
      cases hy : y.isNaN with
      | true =>
          rw [Double.eq_nan_iff.2 hy, h.foldl_nan]
          exact ⟨fun _ => Iff.rfl, fun _ => Or.inr ⟨rfl, rfl⟩⟩
      | false =>
          obtain ⟨hfold, _⟩ := h.foldl_number ys y hy
          rw [hfold]
          simp [Double.eq]
  | false =>
      obtain ⟨hfold, hplace⟩ := h.foldl_number xs x hx
      rw [hfold]
      cases hy : y.isNaN with
      | true =>
          rw [Double.eq_nan_iff.2 hy, h.foldl_nan]
          cases xs.foldl select x <;> simp [Double.eq]
      | false =>
          obtain ⟨hfold', hplace'⟩ := h.foldl_number ys y hy
          rw [places_number hx, places_number hy, List.foldl_cons, List.foldl_cons, hunit, hunit,
            ← hplace, ← hplace', ← Double.eq_iff_place hfold hfold'] at hplaces
          exact ⟨fun _ => Iff.rfl, fun _ => Or.inl hplaces⟩

end Folds

end Handler

/-! ## The built-in functions -/

namespace Expr

/-- The value of a call of a name with the given arguments. -/
def applyNamed (table : SymbolTable) (name : String) (args : List Double) :
    Except EvalError Double :=
  match callee table name args.length with
  | .error error => .error error
  | .ok f => applyFunction f args

section Folded

open Handler (Place Selects)

variable {name : String} {select : Double → Double → Double} {op : Place → Place → Place}

/-- A function that folds a selection over two arguments at least has the value of the fold. -/
theorem applyNamed_fold
    (hname : functionOf {} name =
      .ok { arity := 2, handler := Handler.fold select, variadic := true })
    {x : Double} {xs : List Double} (several : 2 ≤ (x :: xs).length) :
    applyNamed {} name (x :: xs) = .ok (xs.foldl select x) := by
  have htakes : takes { arity := 2, handler := Handler.fold select, variadic := true }
      (x :: xs).length = true := by
    rw [takes, if_pos rfl, decide_eq_true_iff]
    exact Int.ofNat_le.2 several
  rw [applyNamed, callee, hname]
  dsimp only
  rw [if_pos htakes]
  rfl

theorem applyNamed_fold_perm [Std.Commutative op] [Std.Associative op]
    (hname : functionOf {} name =
      .ok { arity := 2, handler := Handler.fold select, variadic := true })
    (h : Selects select op) {unit : Place} (hunit : ∀ a, op unit a = a)
    {xs ys : List Double} (perm : xs.Perm ys) (several : 2 ≤ xs.length) :
    ∃ x y, applyNamed {} name xs = .ok x ∧ applyNamed {} name ys = .ok y ∧
      (x.Same y ↔ (xs.head? = some .nan ↔ ys.head? = some .nan)) := by
  have several' : 2 ≤ ys.length := perm.length_eq ▸ several
  cases xs with
  | nil => exact absurd several (by decide)
  | cons x xs =>
      cases ys with
      | nil => exact absurd several' (by decide)
      | cons y ys =>
          refine ⟨_, _, applyNamed_fold hname several, applyNamed_fold hname several', ?_⟩
          rw [h.same_iff hunit perm, List.head?_cons, List.head?_cons, Option.some_inj,
            Option.some_inj]

end Folded

/-- **The least and the greatest argument depend on the order of the arguments only through
not-a-number.**  Called with two numbers or more in one order and in another, each of the two
functions gives a value, and the values are the same if and only if not-a-number is the first
argument both times or neither time.  So they are if no argument is not-a-number. -/
theorem applyNamed_perm_iff {name : String} (hname : name = "min" ∨ name = "max")
    {xs ys : List Double} (perm : xs.Perm ys) (several : 2 ≤ xs.length) :
    ∃ x y, applyNamed {} name xs = .ok x ∧ applyNamed {} name ys = .ok y ∧
      (x.Same y ↔ (xs.head? = some .nan ↔ ys.head? = some .nan)) ∧
      (.nan ∉ xs → x.Same y) := by
  have hvalues : ∃ x y, applyNamed {} name xs = .ok x ∧ applyNamed {} name ys = .ok y ∧
      (x.Same y ↔ (xs.head? = some .nan ↔ ys.head? = some .nan)) := by
    rcases hname with rfl | rfl
    · exact applyNamed_fold_perm rfl Handler.selects_lesser min_top_left perm several
    · exact applyNamed_fold_perm rfl Handler.selects_greater max_bot_left perm several
  obtain ⟨x, y, hxs, hys, hsame⟩ := hvalues
  refine ⟨x, y, hxs, hys, hsame, fun numbers => hsame.2 ?_⟩
  have unlike (zs : List Double) (hzs : .nan ∉ zs) : zs.head? ≠ some .nan :=
    fun hhead => hzs (List.mem_of_head? hhead)
  have numbers' : .nan ∉ ys := fun mem => numbers (perm.mem_iff.2 mem)
  exact iff_of_false (unlike xs numbers) (unlike ys numbers')

/-- Not-a-number behind two numbers, whichever of them is first. -/
theorem applyNamed_min_swapped :
    ∃ x y, applyNamed {} "min" [.infinity false, .nan, .one] = .ok x ∧
      applyNamed {} "min" [.one, .infinity false, .nan] = .ok y ∧ x.Same y := by
  have perm : [Double.infinity false, .nan, .one].Perm [.one, .infinity false, .nan] := by
    decide +kernel
  obtain ⟨x, y, hxs, hys, hsame, _⟩ := applyNamed_perm_iff (Or.inl rfl) perm (by decide)
  exact ⟨x, y, hxs, hys, hsame.2 (by decide +kernel)⟩

/-- Not-a-number is the least of itself and one if it is the first of them, and else one is. -/
theorem applyNamed_min_unordered :
    applyNamed {} "min" [.nan, .one] = .ok .nan ∧ applyNamed {} "min" [.one, .nan] = .ok .one ∧
      [Double.nan, .one].Perm [.one, .nan] ∧ ¬ Double.Same .nan .one := by
  refine ⟨rfl, rfl, List.Perm.swap _ _ _, ?_⟩
  rintro (h | ⟨_, h⟩)
  · exact Bool.false_ne_true h
  · exact absurd h (by decide +kernel)

end Expr

end Formula
