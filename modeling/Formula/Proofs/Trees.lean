import Formula.Proofs.Grammar
set_option autoImplicit false

/-!
# Trees of phrases

The type of expressions allows trees that no reader builds: a sum with a negation sign for an
operator, or a number whose spelling is no literal.  `WellMade P` says of a tree that its tokens
are of the right kinds, and that each of them has the property `P`.  The trees of phrases are
well made of the tokens of the phrase and of negation signs.
-/

namespace Formula

open Grammar

variable {P Q : Token → Prop}

/-- All members are identifiers, and have the property. -/
def Name.WellMade (P : Token → Prop) (name : Name) : Prop :=
  ∀ member ∈ name.members, member.kind = .identifier ∧ P member

theorem Name.WellMade.imp {name : Name} (h : name.WellMade P) (weaker : ∀ t, P t → Q t) :
    name.WellMade Q :=
  fun member hmember => ⟨(h member hmember).1, weaker member (h member hmember).2⟩

namespace Expr

mutual

/-- All tokens are of the kinds that belong at their places, numbers are literals, and every
token has the property. -/
def WellMade (P : Token → Prop) : Expr → Prop
  | .number t =>
      (t.kind = .number ∧ P t) ∧ ∃ spelling, t.lexeme = some spelling ∧
        (Double.ofLiteral? spelling).isSome
  | .identifier name => name.WellMade P
  | .binary lhs rhs op => lhs.WellMade P ∧ rhs.WellMade P ∧ op.kind.isBinary = true ∧ P op
  | .unary operand op => operand.WellMade P ∧ op.kind.isUnary = true ∧ P op
  | .call name arguments => name.WellMade P ∧ AllWellMade P arguments

/-- All expressions of a list are well made. -/
def AllWellMade (P : Token → Prop) : List Expr → Prop
  | [] => True
  | e :: rest => e.WellMade P ∧ AllWellMade P rest

end

mutual

/-- A tree that is well made is so for every weaker property of its tokens. -/
theorem WellMade.imp (weaker : ∀ t, P t → Q t) : ∀ {e : Expr}, e.WellMade P → e.WellMade Q
  | .number t, h => ⟨⟨h.1.1, weaker t h.1.2⟩, h.2⟩
  | .identifier _, h => Name.WellMade.imp h weaker
  | .binary _ _ op, h => ⟨h.1.imp weaker, h.2.1.imp weaker, h.2.2.1, weaker op h.2.2.2⟩
  | .unary _ op, h => ⟨h.1.imp weaker, h.2.1, weaker op h.2.2⟩
  | .call _ _, h => ⟨h.1.imp weaker, AllWellMade.imp weaker h.2⟩

theorem AllWellMade.imp (weaker : ∀ t, P t → Q t) : ∀ {es : List Expr},
    AllWellMade P es → AllWellMade Q es
  | [], _ => trivial
  | _ :: _, h => ⟨h.1.imp weaker, AllWellMade.imp weaker h.2⟩

end

mutual

/-- The subexpressions of a well made expression are well made. -/
theorem WellMade.subexpression {x : Expr} : ∀ {e : Expr}, e.WellMade P → x ∈ e.subexpressions →
    x.WellMade P
  | .number t, h, hx => by
      rw [subexpressions, List.mem_singleton] at hx
      rw [hx]
      exact h
  | .identifier name, h, hx => by
      rw [subexpressions, List.mem_singleton] at hx
      rw [hx]
      exact h
  | .binary lhs rhs op, h, hx => by
      rw [subexpressions, List.mem_append, List.mem_append, List.mem_singleton] at hx
      rcases hx with (hx | hx) | rfl
      · exact h.1.subexpression hx
      · exact h.2.1.subexpression hx
      · exact h
  | .unary operand op, h, hx => by
      rw [subexpressions, List.mem_append, List.mem_singleton] at hx
      rcases hx with hx | rfl
      · exact h.1.subexpression hx
      · exact h
  | .call name arguments, h, hx => by
      rw [subexpressions, List.mem_append, List.mem_singleton] at hx
      rcases hx with hx | rfl
      · exact AllWellMade.subexpression h.2 hx
      · exact h

theorem AllWellMade.subexpression {x : Expr} : ∀ {es : List Expr}, AllWellMade P es →
    x ∈ subexpressionsOfAll es → x.WellMade P
  | [], _, hx => nomatch hx
  | e :: rest, h, hx => by
      rw [subexpressionsOfAll, List.mem_append] at hx
      rcases hx with hx | hx
      · exact h.1.subexpression hx
      · exact AllWellMade.subexpression h.2 hx

end

end Expr

namespace Grammar

theorem Members.wellMade {ts members : List Token} (h : Members ts members)
    (all : ∀ t ∈ ts, P t) : ∀ member ∈ members, member.kind = .identifier ∧ P member := by
  induction h with
  | none => exact fun member hmember => by cases hmember
  | more _ hkind _ ih =>
      intro member hmember
      rcases List.mem_cons.1 hmember with rfl | hmember
      · exact ⟨hkind, all _ (by simp)⟩
      · exact ih (fun t ht => all t (by simp [ht])) member hmember

theorem Identifier.wellMade {ts : List Token} {name : Name} (h : Identifier ts name)
    (all : ∀ t ∈ ts, P t) : name.WellMade P := by
  obtain ⟨hfirst, further⟩ := h
  intro member hmember
  rcases List.mem_cons.1 hmember with rfl | hmember
  · exact ⟨hfirst, all _ (by simp)⟩
  · exact further.wellMade (fun t ht => all t (by simp [ht])) member hmember

/-- The tokens around another one: those before it, it, and those behind it. -/
theorem forall_mem_around {before behind : List Token} {t : Token} :
    (∀ u ∈ before ++ t :: behind, P u) ↔ (∀ u ∈ before, P u) ∧ P t ∧ ∀ u ∈ behind, P u := by
  rw [List.forall_mem_append, List.forall_mem_cons]

mutual

/-- The tree of a phrase is well made of its tokens, and of the negation signs for its minuses. -/
theorem Phrase.wellMade (negation : ∀ start, P { kind := .negate, start }) {q : Nonterminal}
    {ts : List Token} {e : Expr} : Phrase q ts e → (∀ t ∈ ts, P t) → e.WellMade P
  | .addition lhs hop rhs, all => by
      obtain ⟨before, sign, behind⟩ := forall_mem_around.1 all
      refine ⟨lhs.wellMade negation before, rhs.wellMade negation behind, ?_, sign⟩
      rcases hop with hop | hop <;> rw [hop] <;> rfl
  | .multiplication lhs hop rhs, all => by
      obtain ⟨before, sign, behind⟩ := forall_mem_around.1 all
      refine ⟨lhs.wellMade negation before, rhs.wellMade negation behind, ?_, sign⟩
      rcases hop with hop | hop <;> rw [hop] <;> rfl
  | .exponentiation lhs hop rhs, all => by
      obtain ⟨before, sign, behind⟩ := forall_mem_around.1 all
      exact ⟨lhs.wellMade negation before, rhs.wellMade negation behind, by rw [hop]; rfl, sign⟩
  | .ofProduct h, all => h.wellMade negation all
  | .ofPower h, all => h.wellMade negation all
  | .ofFactor h, all => h.wellMade negation all
  | .ofPrimary h, all => h.wellMade negation all
  | .factorial h hop, all => by
      obtain ⟨before, sign, _⟩ := forall_mem_around.1 all
      exact ⟨h.wellMade negation before, by rw [hop]; rfl, sign⟩
  | .number hkind hlexeme hliteral, all =>
      ⟨⟨hkind, all _ List.mem_cons_self⟩, _, hlexeme, hliteral⟩
  | .name h, all => h.wellMade all
  | .emptyCall h _ _, all => ⟨h.wellMade (List.forall_mem_append.1 all).1, trivial⟩
  | .call h _ arguments _, all => by
      obtain ⟨before, _, _⟩ := forall_mem_around.1 all
      obtain ⟨name, _, inner⟩ := forall_mem_around.1 before
      exact ⟨h.wellMade name, arguments.wellMade negation inner⟩
  | .group _ h _, all => by
      obtain ⟨before, _, _⟩ := forall_mem_around.1 all
      exact h.wellMade negation (List.forall_mem_cons.1 before).2
  | .minus _ h, all => ⟨h.wellMade negation (List.forall_mem_cons.1 all).2, rfl, negation _⟩
  | .negation hop h, all => by
      obtain ⟨sign, behind⟩ := List.forall_mem_cons.1 all
      exact ⟨h.wellMade negation behind, by rw [hop]; rfl, sign⟩

theorem Arguments.wellMade (negation : ∀ start, P { kind := .negate, start }) {ts : List Token}
    {es : List Expr} : Arguments ts es → (∀ t ∈ ts, P t) → Expr.AllWellMade P es
  | .one h, all => ⟨h.wellMade negation all, trivial⟩
  | .more h _ others, all => by
      obtain ⟨before, _, behind⟩ := forall_mem_around.1 all
      exact ⟨h.wellMade negation before, others.wellMade negation behind⟩

end

end Grammar

end Formula
