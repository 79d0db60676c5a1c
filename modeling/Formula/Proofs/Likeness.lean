import Formula.Expr.Basic
import Formula.Proofs.Lexing
set_option autoImplicit false

/-!
# Likeness is equality without columns

Two expressions are alike if they are equal once the columns of their tokens are forgotten, and
up to the limit on depth the comparison that may give up finds out whether they are.
-/

namespace Formula

/-! ## Forgetting columns -/

/-- The name as if its members were not cut from a text. -/
def Name.unplaced (name : Name) : Name := ⟨name.first.unplaced, name.others.map Token.unplaced⟩

theorem Name.members_unplaced (name : Name) :
    name.unplaced.members = name.members.map Token.unplaced := rfl

theorem Name.text_unplaced (name : Name) : name.unplaced.text = name.text := by
  rw [Name.text, Name.text, members_unplaced, List.map_map]
  rfl

namespace Expr

mutual

/-- The expression as if its tokens were not cut from a text. -/
def unplaced : Expr → Expr
  | .number t => .number t.unplaced
  | .identifier name => .identifier name.unplaced
  | .binary lhs rhs op => .binary lhs.unplaced rhs.unplaced op.unplaced
  | .unary operand op => .unary operand.unplaced op.unplaced
  | .call name arguments => .call name.unplaced (unplacedAll arguments)

/-- All expressions of a list as if their tokens were not cut from a text. -/
def unplacedAll : List Expr → List Expr
  | [] => []
  | e :: rest => e.unplaced :: unplacedAll rest

end

end Expr

/-! ## Likeness -/

theorem Token.alike_iff_unplaced (t u : Token) : t.alike u = true ↔ t.unplaced = u.unplaced := by
  rw [Token.alike_iff, Token.unplaced, Token.unplaced, Token.mk.injEq]
  exact ⟨fun h => ⟨h.1, h.2, rfl⟩, fun h => ⟨h.1, h.2.1⟩⟩

theorem isEqv_alike_iff (ts us : List Token) :
    ts.isEqv us Token.alike = true ↔ ts.map Token.unplaced = us.map Token.unplaced := by
  induction ts generalizing us with
  | nil => cases us <;> simp [List.isEqv]
  | cons t ts ih =>
      cases us with
      | nil => simp [List.isEqv]
      | cons u us =>
          rw [List.isEqv, Bool.and_eq_true, Token.alike_iff_unplaced, ih, List.map_cons,
            List.map_cons, List.cons.injEq]

theorem Name.agree_alike_iff (a b : Name) :
    a.agree Token.alike b = true ↔ a.unplaced = b.unplaced := by
  rw [Name.agree, isEqv_alike_iff, Name.members, Name.members, List.map_cons, List.map_cons,
    List.cons.injEq, Name.unplaced, Name.unplaced, Name.mk.injEq]

namespace Expr

mutual

/-- Expressions are alike if they are equal without their columns. -/
theorem alike_iff_unplaced : ∀ (a b : Expr), a.alike b = true ↔ a.unplaced = b.unplaced
  | .number t, b => by
      cases b <;> simp [alike, agree, unplaced, Token.alike_iff_unplaced]
  | .identifier name, b => by
      cases b <;> simp [alike, agree, unplaced, Name.agree_alike_iff]
  | .binary l r op, b => by
      cases b with
      | binary l' r' op' =>
          have hl := alike_iff_unplaced l l'
          have hr := alike_iff_unplaced r r'
          rw [alike] at hl hr
          rw [alike, agree, Bool.and_eq_true, Bool.and_eq_true, hl, hr, Token.alike_iff_unplaced,
            unplaced, unplaced, Expr.binary.injEq, and_assoc]
      | _ => simp [alike, agree, unplaced]
  | .unary e op, b => by
      cases b with
      | unary e' op' =>
          have he := alike_iff_unplaced e e'
          rw [alike] at he
          rw [alike, agree, Bool.and_eq_true, he, Token.alike_iff_unplaced, unplaced, unplaced,
            Expr.unary.injEq]
      | _ => simp [alike, agree, unplaced]
  | .call name es, b => by
      cases b with
      | call name' es' =>
          have hes := agreeAll_alike_iff es es'
          rw [alike, agree, Bool.and_eq_true, Name.agree_alike_iff, hes, unplaced, unplaced,
            Expr.call.injEq]
      | _ => simp [alike, agree, unplaced]

theorem agreeAll_alike_iff : ∀ (as bs : List Expr),
    agreeAll Token.alike as bs = true ↔ unplacedAll as = unplacedAll bs
  | [], bs => by cases bs <;> simp [agreeAll, unplacedAll]
  | a :: as, bs => by
      cases bs with
      | nil => simp [agreeAll, unplacedAll]
      | cons b bs =>
          have ha := alike_iff_unplaced a b
          rw [alike] at ha
          rw [agreeAll, Bool.and_eq_true, ha, agreeAll_alike_iff as bs, unplacedAll, unplacedAll,
            List.cons.injEq]

end

/-! ## Comparing up to the limit on depth -/

mutual

/-- With room enough for one of the expressions the comparison comes to its end. -/
theorem agreeWithin_eq_some (same : Token → Token → Bool) : ∀ (room : Nat) (a b : Expr),
    b.depth ≤ room → agreeWithin same room a b = some (a.agree same b)
  | 0, _, b, h => by cases b <;> simp [depth] at h
  | room + 1, .number t, b, _ => by cases b <;> simp [agreeWithin, agree]
  | room + 1, .identifier name, b, _ => by cases b <;> simp [agreeWithin, agree]
  | room + 1, .binary l r op, b, h => by
      cases b with
      | binary l' r' op' =>
          rw [depth] at h
          have hl := agreeWithin_eq_some same room l l' (by omega)
          have hr := agreeWithin_eq_some same room r r' (by omega)
          rw [agreeWithin, hl, hr, agree]
          cases l.agree same l' <;> simp
      | _ => simp [agreeWithin, agree]
  | room + 1, .unary e op, b, h => by
      cases b with
      | unary e' op' =>
          rw [depth] at h
          rw [agreeWithin, agreeWithin_eq_some same room e e' (by omega), agree]
          rfl
      | _ => simp [agreeWithin, agree]
  | room + 1, .call name es, b, h => by
      cases b with
      | call name' es' =>
          rw [depth] at h
          rw [agreeWithin, agreeAllWithin_eq_some same room es es' (by omega), agree]
          cases name.agree same name' <;> rfl
      | _ => simp [agreeWithin, agree]

theorem agreeAllWithin_eq_some (same : Token → Token → Bool) : ∀ (room : Nat) (as bs : List Expr),
    depthOfAll bs ≤ room → agreeAllWithin same room as bs = some (agreeAll same as bs)
  | room, [], bs, _ => by cases bs <;> simp [agreeAllWithin, agreeAll]
  | room, a :: as, bs, h => by
      cases bs with
      | nil => simp [agreeAllWithin, agreeAll]
      | cons b bs =>
          rw [depthOfAll] at h
          have ha := agreeWithin_eq_some same room a b (by omega)
          have has := agreeAllWithin_eq_some same room as bs (by omega)
          rw [agreeAllWithin, ha, has, agreeAll]
          cases a.agree same b <;> simp

end

/-- An expression is found to be like one that is not too deep if it is. -/
theorem alike?_eq_some {a b : Expr} (h : b.depth ≤ depthLimit) : a.alike? b = some (a.alike b) :=
  agreeWithin_eq_some Token.alike depthLimit a b h

end Expr

end Formula
