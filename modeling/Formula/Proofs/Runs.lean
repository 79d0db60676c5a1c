import Formula.Proofs.Evaluation
import Formula.Proofs.Printing
import Formula.Session
set_option autoImplicit false

/-!
# Runs of a session

A run that finds a value warns about it, if it is not finite, and gives the canonical text and the
value, unless the text is nested too deeply to be written; a run that finds none prints nothing.
-/

namespace Formula

open Text (Style)

namespace Session

/-- What is printed about a value: a warning, unless it is finite. -/
def warningText (style : Style) (r : Reporter) (source : String) (x : Double) : String :=
  if x.isFinite then "" else r.warningHead style (notFiniteWarning style source)

/-- The warning shows no snippet, so it is always written. -/
theorem warnUnlessFinite_eq (style : Style) (r : Reporter) (source : String) (x : Double) :
    warnUnlessFinite style r source x
      = { printed := warningText style r source x, reporter := r, result := .ok () } := by
  unfold warnUnlessFinite warningText
  split
  · rfl
  · have hidden : (notFiniteWarning style source).showsSnippet = false := by
      simp [notFiniteWarning, Problem.about, Problem.showsSnippet]
    rw [Reporter.warn, Reporter.report, Reporter.diagnosisText, hidden]
    simp [Outcome.after]

/-- The text is written up to the limit of the printer, and not beyond it. -/
theorem answer_eq (e : Expr) (x : Double) :
    answer e x =
      if e.depth ≤ Printer.depthLimit then .ok ⟨e.render, x⟩ else .error .tooDeep := by
  rw [answer]
  split
  · rename_i text hprints
    obtain ⟨shallow, rfl⟩ := (Expr.render?_eq_some_iff e text).1 hprints
    rw [if_pos shallow]
  · rename_i hprints
    rw [if_neg fun shallow => ?_]
    rw [(Expr.render?_eq_some_iff e e.render).2 ⟨shallow, rfl⟩] at hprints
    cases hprints

/-- A source that is an expression with a value. -/
theorem run_of_value {style : Style} {table : SymbolTable} {r : Reporter} {source : String}
    {e : Expr} {x : Double} (hread : Expr.ofSource style source = .ok e)
    (hvalue : e.evaluate table = .ok x) :
    run style table r source = {
      printed := warningText style (r.register Reporter.mainSource source) source x
      reporter := (r.register Reporter.mainSource source).remove Reporter.mainSource
      result := answer e x } := by
  rw [run, evaluate, hread]
  dsimp only
  rw [hvalue]
  dsimp only
  rw [warnUnlessFinite_eq]
  simp [Outcome.andThen, Outcome.after]

/-- A source that is no expression or has no value. -/
theorem run_of_failure {style : Style} {table : SymbolTable} {r : Reporter} {source : String}
    {failure : Failure} (h : evaluate style table source = .error failure) :
    run style table r source
      = { reporter := r.register Reporter.mainSource source, result := .error failure } := by
  rw [run, h]

theorem evaluate_eq_ok {style : Style} {table : SymbolTable} {source : String} {e : Expr}
    {x : Double} (h : evaluate style table source = .ok (e, x)) :
    Expr.ofSource style source = .ok e ∧ e.evaluate table = .ok x := by
  unfold evaluate at h
  split at h
  · cases h
  · rename_i hread
    split at h
    · cases h
    · rename_i hevaluate
      cases h
      exact ⟨hread, hevaluate⟩

end Session

end Formula
