import Formula.Proofs.Completeness
import Formula.Proofs.Soundness
set_option autoImplicit false

/-!
# The reader is exact

Soundness and completeness together: within enough frames the reader of whole expressions
accepts the sums of the grammar and nothing else, with the expression that the grammar gives
them.  That the grammar gives only one is a consequence, since a reader returns only one.
-/

namespace Formula

open Grammar

namespace Reader

/-- Unless it finds the tokens too deeply nested, the reader accepts the sums of the grammar. -/
theorem whole_eq_ok_iff {frames : Nat} {ts : List Token} (h : ¬ (whole frames ts).TooDeep)
    (e : Expr) (rest : List Token) :
    whole frames ts = .ok e rest ↔ rest = [] ∧ Phrase .sum ts e := by
  constructor
  · exact whole_sound
  · rintro ⟨rfl, hsum⟩
    rcases whole_complete hsum frames with hread | deep
    · exact hread
    · exact absurd deep h

end Reader

/-- No tokens stand for two expressions: there are frames enough to read both. -/
theorem Grammar.phrase_unique {ts : List Token} {a b : Expr} (ha : Phrase .sum ts a)
    (hb : Phrase .sum ts b) : a = b := by
  have enough := Reader.not_tooDeep_whole (3 * ts.length + 3) ts (Nat.lt_succ_self _)
  have readA := (Reader.whole_eq_ok_iff enough a []).2 ⟨rfl, ha⟩
  have readB := (Reader.whole_eq_ok_iff enough b []).2 ⟨rfl, hb⟩
  rw [readA] at readB
  cases readB
  rfl

/-- **The reader of expressions is exact.**  What it returns takes all the tokens and is what
the grammar makes of them; if it does not find them too deeply nested, it returns everything
that the grammar allows; no list of tokens is too deeply nested for three frames for each of them
and three more; and the grammar makes at most one expression of a list of tokens. -/
theorem Expr.ofTokens_exact (ts : List Token) :
    (∀ e rest, Expr.ofTokens ts = .ok e rest → rest = [] ∧ Phrase .sum ts e) ∧
      (¬ (Expr.ofTokens ts).TooDeep →
        ∀ e rest, Expr.ofTokens ts = .ok e rest ↔ rest = [] ∧ Phrase .sum ts e) ∧
      (∀ frames, 3 * ts.length + 2 < frames →
        ∀ e rest, Reader.whole frames ts = .ok e rest ↔ rest = [] ∧ Phrase .sum ts e) ∧
      (∀ a b, Phrase .sum ts a → Phrase .sum ts b → a = b) := by
  refine ⟨fun e rest => Reader.whole_sound, fun h => Reader.whole_eq_ok_iff h, ?_, ?_⟩
  · intro frames enough
    exact Reader.whole_eq_ok_iff (Reader.not_tooDeep_whole frames ts enough)
  · intro a b ha hb
    exact phrase_unique ha hb

end Formula
