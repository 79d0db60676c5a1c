import Formula.Proofs.Construction
import Formula.Proofs.Stopping
import Formula.Session
set_option autoImplicit false

/-!
# Parsing any tokens

Tokens need not come from a text.  Whatever they are, they are read as an expression, or refused
with a problem of reading, with one exception: a number that has no spelling at all.  Where a
primary may start, and nothing before it was wrong, it is asked for its value and has none.
-/

namespace Formula

open Grammar
open Text (Style)

/-- Reads tokens, which are said to be those of `source`, as an expression. -/
def Expr.parse (style : Style) (source : String) (ts : List Token) : Except Failure Expr :=
  match Expr.ofTokens ts with
  | .ok e _ => .ok e
  | .fail refusal rest => .error (.ofWholeRefusal style source refusal rest)

theorem Expr.ofSource_eq_parse (style : Style) (source : String) :
    Expr.ofSource style source = Expr.parse style source (Token.ofText source) := rfl

/-! ## The numbers of a phrase -/

/-- If the token is a number, then it is a literal. -/
def Token.LiteralIfNumber (t : Token) : Prop :=
  t.kind = .number → t.lexeme.bind Double.ofLiteral? ≠ none

theorem Token.literalIfNumber_of_kind {t : Token} {kind : Kind} (h : t.kind = kind)
    (plain : kind ≠ .number) : t.LiteralIfNumber :=
  fun hnumber => absurd (h.symm.trans hnumber) plain

namespace Grammar

open Token (literalIfNumber_of_kind)

theorem Members.literals {ts members : List Token} (h : Members ts members) :
    ∀ t ∈ ts, t.LiteralIfNumber := by
  induction h with
  | none => exact fun t ht => by cases ht
  | more hperiod hmember _ ih =>
      rw [List.forall_mem_cons, List.forall_mem_cons]
      exact ⟨literalIfNumber_of_kind hperiod (by decide),
        literalIfNumber_of_kind hmember (by decide), ih⟩

theorem Identifier.literals {ts : List Token} {name : Name} (h : Identifier ts name) :
    ∀ t ∈ ts, t.LiteralIfNumber := by
  obtain ⟨hfirst, further⟩ := h
  rw [List.forall_mem_cons]
  exact ⟨literalIfNumber_of_kind hfirst (by decide), further.literals⟩

theorem literals_singleton {t : Token} (h : t.LiteralIfNumber) :
    ∀ u ∈ [t], u.LiteralIfNumber := by
  rw [List.forall_mem_singleton]
  exact h

mutual

/-- All numbers of a phrase are literals. -/
theorem Phrase.literals {q : Nonterminal} {ts : List Token} {e : Expr} :
    Phrase q ts e → ∀ t ∈ ts, t.LiteralIfNumber
  | .addition lhs hop rhs | .multiplication lhs hop rhs => by
      have hsign := hop.elim (literalIfNumber_of_kind · (by decide))
        (literalIfNumber_of_kind · (by decide))
      exact List.forall_mem_append.2 ⟨lhs.literals, List.forall_mem_cons.2 ⟨hsign, rhs.literals⟩⟩
  | .exponentiation lhs hop rhs => by
      have hsign := literalIfNumber_of_kind hop (by decide)
      exact List.forall_mem_append.2 ⟨lhs.literals, List.forall_mem_cons.2 ⟨hsign, rhs.literals⟩⟩
  | .ofProduct h | .ofPower h | .ofFactor h | .ofPrimary h => h.literals
  | .factorial h hop => by
      have hsign := literalIfNumber_of_kind hop (by decide)
      exact List.forall_mem_append.2 ⟨h.literals, literals_singleton hsign⟩
  | .number _ hlexeme hliteral => by
      refine literals_singleton fun _ hnone => ?_
      rw [hlexeme, Option.bind_some] at hnone
      rw [hnone] at hliteral
      cases hliteral
  | .name h => h.literals
  | .emptyCall h hopening hclosing => by
      have hleft := literalIfNumber_of_kind hopening (by decide)
      have hright := literalIfNumber_of_kind hclosing (by decide)
      exact List.forall_mem_append.2
        ⟨h.literals, List.forall_mem_cons.2 ⟨hleft, literals_singleton hright⟩⟩
  | .call h hopening inner hclosing => by
      have hleft := literalIfNumber_of_kind hopening (by decide)
      have hright := literalIfNumber_of_kind hclosing (by decide)
      have hopened := List.forall_mem_cons.2 ⟨hleft, inner.literals⟩
      exact List.forall_mem_append.2
        ⟨List.forall_mem_append.2 ⟨h.literals, hopened⟩, literals_singleton hright⟩
  | .group hopening inner hclosing => by
      have hleft := literalIfNumber_of_kind hopening (by decide)
      have hright := literalIfNumber_of_kind hclosing (by decide)
      have hopened := List.forall_mem_cons.2 ⟨hleft, inner.literals⟩
      exact List.forall_mem_append.2 ⟨hopened, literals_singleton hright⟩
  | .minus hop h | .negation hop h =>
      List.forall_mem_cons.2 ⟨literalIfNumber_of_kind hop (by decide), h.literals⟩

theorem Arguments.literals {ts : List Token} {es : List Expr} :
    Arguments ts es → ∀ t ∈ ts, t.LiteralIfNumber
  | .one h => h.literals
  | .more h hcomma others => by
      have hsign := literalIfNumber_of_kind hcomma (by decide)
      exact List.forall_mem_append.2
        ⟨h.literals, List.forall_mem_cons.2 ⟨hsign, others.literals⟩⟩

end

/-- No phrase begins with tokens among which a number is no literal. -/
theorem not_viable_of_no_literal {q : Nonterminal} {ts : List Token} {t : Token} (ht : t ∈ ts)
    (hkind : t.kind = .number) (hliteral : t.lexeme.bind Double.ofLiteral? = none) :
    ¬ Viable (Phrase q) ts := by
  rintro ⟨more, e, hphrase⟩
  exact hphrase.literals t (List.mem_append_left more ht) hkind hliteral

/-- Where a primary may start, what stands before it is the longest viable prefix if a number comes
next that is no literal. -/
theorem AwaitsPrimary.longest {q : Nonterminal} {front rest : List Token} {t : Token}
    (awaits : AwaitsPrimary (Phrase q) front) (hkind : t.kind = .number)
    (hliteral : t.lexeme.bind Double.ofLiteral? = none) :
    LongestViable (Phrase q) (front ++ t :: rest) front (t :: rest) := by
  refine .of_next rfl (awaits _ _ phrase_someNumber).front fun u hu => ?_
  cases hu
  have hlast : t ∈ front ++ [t] := List.mem_append_right front List.mem_cons_self
  exact not_viable_of_no_literal hlast hkind hliteral

end Grammar

/-! ## The one exception -/

/-- A number without a spelling stands where a primary may start, behind tokens with which nothing
is wrong, and what is before it is not nested too deeply. -/
def LacksNumber (frames : Nat) (ts : List Token) : Prop :=
  ¬ (Reader.whole frames ts).TooDeep ∧
    ∃ front t rest, ts = front ++ t :: rest ∧ AwaitsPrimary (Phrase .sum) front ∧
      t.kind = .number ∧ t.lexeme = none

theorem Reader.whole_blankNumber_iff {frames : Nat} {ts : List Token} :
    (∃ rest, whole frames ts = .fail .blankNumber rest) ↔ LacksNumber frames ts := by
  constructor
  · rintro ⟨rest, hread⟩
    obtain ⟨front, stuck, hlongest, hrefuses⟩ := whole_refusesAt hread (by decide)
    refine ⟨?_, front, ?_⟩
    · rintro ⟨left, hdeep⟩
      rw [hread] at hdeep
      cases hdeep
    · cases hrefuses with
      | inside met number =>
          cases met with
          | noSpelling hkind hlexeme rest =>
              exact ⟨_, rest, hlongest.split, (number.1 rfl).1, hkind, hlexeme⟩
  · rintro ⟨room, front, t, rest, rfl, awaits, hkind, hlexeme⟩
    have hliteral : t.lexeme.bind Double.ofLiteral? = none := by rw [hlexeme, Option.bind_none]
    have stops : LongestViable (Phrase .sum) (front ++ t :: rest) front (t :: rest) :=
      awaits.longest hkind hliteral
    have refuses : RefusesNumber (Phrase .sum) front (t :: rest) :=
      ⟨awaits, t, rfl, hkind, hliteral⟩
    cases hread : whole frames (front ++ t :: rest) with
    | ok e left =>
        have whole := (whole_sound hread).2
        exact absurd hliteral (whole.literals t (by simp) hkind)
    | fail refusal left =>
        have foreseen : refusal ≠ .tooDeep := by
          rintro rfl
          exact room ⟨left, hread⟩
        obtain ⟨front', stuck', hlongest, hrefuses⟩ := whole_refusesAt hread foreseen
        obtain ⟨rfl, rfl⟩ := hlongest.unique stops
        refine ⟨left, ?_⟩
        cases hrefuses with
        | inside met number =>
            have hnumber := number.2 refuses
            cases met with
            | noSpelling _ _ _ => rfl
            | noLiteral _ hspelling _ _ =>
                rw [hlexeme] at hspelling
                cases hspelling
            | unexpected hplain _ => exact absurd hkind hplain
            | expected what => cases hnumber
            | tooDeep => cases hnumber
        | behind number => exact absurd refuses number

/-! ## Parsing -/

/-- Any tokens at all are read as a tree or refused with a problem of reading, unless a number
without a spelling is reached, which is a fault.  The readers do not refuse any node that they
build, however a refused node would be answered. -/
theorem Expr.parse_foreseen_iff (style : Style) (source : String) (ts : List Token) :
    (((∃ e, Expr.parse style source ts = .ok e) ∨
        ∃ failure, Expr.parse style source ts = .error failure ∧
          failure.IsParseError style source) ↔ ¬ LacksNumber Reader.frameLimit ts) ∧
      (LacksNumber Reader.frameLimit ts →
        Expr.parse style source ts = .error (.fault .missingNumber)) ∧
      ∀ refused, Reader.wholeChecked refused Reader.frameLimit ts = Expr.ofTokens ts := by
  have escapes (h : LacksNumber Reader.frameLimit ts) :
      Expr.parse style source ts = .error (.fault .missingNumber) := by
    obtain ⟨rest, hread⟩ := Reader.whole_blankNumber_iff.2 h
    rw [Expr.parse, Expr.ofTokens, hread]
    rfl
  refine ⟨⟨fun foreseen h => ?_, fun h => ?_⟩, escapes, fun refused => ?_⟩
  · rw [escapes h] at foreseen
    rcases foreseen with ⟨e, hread⟩ | ⟨failure, hread, hparse⟩
    · cases hread
    · cases hread
      cases hparse
  · cases hread : Expr.ofTokens ts with
    | ok e rest => exact Or.inl ⟨e, by rw [Expr.parse, hread]⟩
    | fail refusal rest =>
        have spelled : refusal ≠ .blankNumber := by
          rintro rfl
          exact h (Reader.whole_blankNumber_iff.1 ⟨rest, hread⟩)
        refine Or.inr ⟨_, by rw [Expr.parse, hread], ?_⟩
        by_cases deep : refusal = .tooDeep
        · rw [deep]
          exact .problem (Or.inl rfl) (Problem.nestedTooDeeply_fills style _ source _)
        · rw [Failure.ofWholeRefusal_eq deep]
          exact Failure.isParseError_ofRefusal spelled deep rest
  · rw [Reader.wholeChecked_eq]
    rfl

/-- A number without a spelling, and nothing else. -/
theorem Expr.parse_lone_number :
    Expr.parse .plain "" [{ kind := .number }] = .error (.fault .missingNumber) ∧
      ¬ ((∃ e, Expr.parse .plain "" [{ kind := .number }] = .ok e) ∨
        ∃ failure, Expr.parse .plain "" [{ kind := .number }] = .error failure ∧
          failure.IsParseError .plain "") := by
  have escapes : Expr.parse .plain "" [{ kind := .number }] = .error (.fault .missingNumber) := by
    have refused : Expr.ofTokens [{ kind := .number }] = .fail .blankNumber [] := by
      decide +kernel
    rw [Expr.parse, refused]
    rfl
  refine ⟨escapes, fun foreseen => ?_⟩
  rw [escapes] at foreseen
  rcases foreseen with ⟨e, hread⟩ | ⟨failure, hread, hparse⟩
  · cases hread
  · cases hread
    cases hparse

end Formula
