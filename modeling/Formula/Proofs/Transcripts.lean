import Formula.Proofs.Failures
import Formula.Proofs.Lines
set_option autoImplicit false

/-!
# What a run of the program leaves behind

Whatever text is given as the expression and whatever texts as definitions, the program either
prints its answer as the last line and returns by itself, or reports a foreseen failure as an
error and ends with code 1.
-/

namespace Formula

open Text (Style)
open Token

namespace CommandLine

/-- The line of an answer. -/
def lineOf (e : Expr) (x : Double) : String := e.render ++ " = " ++ x.answerText

/-- What is printed of the outline, if it was asked for. -/
def outlineOf (showsTree : Bool) (e : Expr) : String :=
  if showsTree then e.outline 0 ++ "\n" else ""

/-- The reporter of a run of the source. -/
def reporterOf (source : String) : Reporter := ({} : Reporter).register Reporter.mainSource source

/-- What may have been printed of a source before it is run: its outline, if that was asked for. -/
def Shown (style : Style) (source : String) (showsTree : Bool) (shown : String) : Prop :=
  showsTree = false ∧ shown = "" ∨
    ∃ e, Expr.ofSource style source = .ok e ∧ shown = outlineOf showsTree e

/-- The answer was printed: behind the outline, if it was asked for, and the warning about a value
that is not finite, the last line is the canonical text and the value. -/
def Answered (style : Style) (source : String) (definitions : List String) (showsTree : Bool)
    (t : Transcript) : Prop :=
  ∃ table e x, defineAll style {} (definitions.map some) = .ok table ∧
    Expr.ofSource style source = .ok e ∧ e.evaluate table = .ok x ∧
    OneLine (lineOf e x).toList ∧
    t = { output := outlineOf showsTree e
            ++ Session.warningText style (reporterOf source) source x ++ (lineOf e x ++ "\n") }

/-- What may have been printed of a run before it failed: the warning about a value that is not
finite, if there is a value and only its text is nested too deeply to be written. -/
def Warned (style : Style) (source : String) (definitions : List String) (failure : Failure)
    (warning : String) : Prop :=
  warning = "" ∨ failure = .tooDeep ∧
    ∃ table e x, defineAll style {} (definitions.map some) = .ok table ∧
      Expr.ofSource style source = .ok e ∧ e.evaluate table = .ok x ∧ Printer.depthLimit < e.depth ∧
      warning = Session.warningText style (reporterOf source) source x

/-- A foreseen failure was reported: behind the outline and the warning, if these were already
printed, stands the report of a problem that is not the program's own and is worded by a
template. -/
def Reported (style : Style) (source : String) (definitions : List String) (showsTree : Bool)
    (failure : Failure) (t : Transcript) : Prop :=
  failure.Foreseen style ∧ ∃ shown warning r p,
    (shown = "" ∨ Shown style source showsTree shown) ∧
    Warned style source definitions failure warning ∧ (r = {} ∨ r = reporterOf source) ∧
    r.settle style failure = r.throw style p ∧ p.Reportable ∧ p.Worded style ∧
    t = { output := shown ++ warning ++ r.errorReport style p, code := some 1 }

/-! ## Steps of a run -/

theorem Shown.eq_outlineOf {style : Style} {source : String} {showsTree : Bool} {shown : String}
    (h : Shown style source showsTree shown) {e : Expr}
    (hread : Expr.ofSource style source = .ok e) : shown = outlineOf showsTree e := by
  rcases h with ⟨rfl, rfl⟩ | ⟨e', hread', hshown⟩
  · rfl
  · rw [hread] at hread'
    cases hread'
    exact hshown

theorem showTree_cases (style : Style) (r : Reporter) (showsTree : Bool) (source : String) :
    (∃ failure, failure.Foreseen style ∧
        showTree style r showsTree source = { reporter := r, result := .error failure }) ∨
      ∃ shown, Shown style source showsTree shown ∧ showTree style r showsTree source
        = { printed := shown, reporter := r, result := .ok () } := by
  unfold showTree
  cases showsTree with
  | false => exact .inr ⟨"", .inl ⟨rfl, rfl⟩, rfl⟩
  | true =>
      cases houtline : Session.outline style source with
      | error failure => exact .inl ⟨failure, Session.foreseen_outline houtline, rfl⟩
      | ok text =>
          obtain ⟨e, hread, htext⟩ := Session.outline_eq_ok houtline
          exact .inr ⟨text ++ "\n", .inr ⟨e, hread, by rw [htext]; rfl⟩, rfl⟩

section Perform

variable {style : Style} {source : String} {definitions : List String} {showsTree : Bool}

theorem remove_reporterOf (source : String) :
    (reporterOf source).remove Reporter.mainSource = {} := by
  simp [reporterOf, Reporter.register, Reporter.remove, Reporter.setSource]

/-- The line of an answer is printed for every value, if its text can be written. -/
theorem run_printAnswer {table : SymbolTable} {e : Expr} {x : Double}
    (hread : Expr.ofSource style source = .ok e) (hvalue : e.evaluate table = .ok x) :
    (Session.run style table {} source).andThen printAnswer =
      if e.depth ≤ Printer.depthLimit then
        { printed := Session.warningText style (reporterOf source) source x ++ (lineOf e x ++ "\n")
          reporter := {}, result := .ok () }
      else
        { printed := Session.warningText style (reporterOf source) source x
          reporter := {}, result := .error .tooDeep } := by
  have forgotten := remove_reporterOf source
  rw [reporterOf] at forgotten
  rw [Session.run_of_value hread hvalue, Session.answer_eq, forgotten]
  split
  · simp only [Outcome.andThen, printAnswer, answerLine, Arithmetic.answerText_eq]
    rfl
  · rfl

/-- What a run does, case by case. -/
theorem perform_cases (style : Style) (source : String) (definitions : List String)
    (showsTree : Bool) {request : Request} (hrequest : request =
      { expression := some source, definitions := definitions.map some, showsTree }) :
    (∃ table e x, defineAll style {} (definitions.map some) = .ok table ∧
        Expr.ofSource style source = .ok e ∧ e.evaluate table = .ok x ∧
        perform style {} request = {
          printed := outlineOf showsTree e
            ++ (Session.warningText style (reporterOf source) source x ++ (lineOf e x ++ "\n"))
          reporter := {}, result := .ok () }) ∨
      ∃ failure shown warning r, failure.Foreseen style ∧
        (shown = "" ∨ Shown style source showsTree shown) ∧
        Warned style source definitions failure warning ∧ (r = {} ∨ r = reporterOf source) ∧
        perform style {} request =
          { printed := shown ++ warning, reporter := r, result := .error failure } := by
  subst hrequest
  unfold perform
  dsimp only [Option.getD_some]
  cases hdefine : defineAll style {} (definitions.map some) with
  | error failure =>
      exact .inr ⟨failure, "", "", {}, foreseen_defineAll hdefine, .inl rfl, .inl rfl, .inl rfl, rfl⟩
  | ok table =>
      have total := total_defineAll SymbolTable.total_builtins hdefine
      rcases showTree_cases style {} showsTree source with
        ⟨failure, hforeseen, htree⟩ | ⟨shown, hshown, htree⟩
      · refine .inr ⟨failure, "", "", {}, hforeseen, .inl rfl, .inl rfl, .inl rfl, ?_⟩
        dsimp only
        rw [htree]
        rfl
      · dsimp only
        rw [htree]
        cases hevaluate : Session.evaluate style table source with
        | error failure =>
            refine .inr ⟨failure, shown, "", reporterOf source,
              Session.foreseen_evaluate total hevaluate, .inr hshown, .inl rfl, .inr rfl, ?_⟩
            rw [Outcome.andThen]
            dsimp only
            rw [Session.run_of_failure hevaluate]
            simp [Outcome.andThen, Outcome.after, reporterOf]
        | ok answer =>
            obtain ⟨e, x⟩ := answer
            obtain ⟨hread, hvalue⟩ := Session.evaluate_eq_ok hevaluate
            rw [Outcome.andThen]
            dsimp only
            rw [run_printAnswer hread hvalue]
            split
            · refine .inl ⟨table, e, x, rfl, hread, hvalue, ?_⟩
              rw [hshown.eq_outlineOf hread]
              rfl
            · rename_i deep
              exact .inr ⟨.tooDeep, shown, _, {}, .tooDeep, .inr hshown,
                .inr ⟨rfl, table, e, x, hdefine, hread, hvalue, Nat.lt_of_not_le deep, rfl⟩,
                .inl rfl, rfl⟩

end Perform

/-- A foreseen failure under the eyes of a fatal reporter is reported and ends the program. -/
theorem ofOutcome_guard {style : Style} {shown : String} {r : Reporter} {failure : Failure}
    {p : Problem} (hfatal : r.isFatal = true) (hsettle : r.settle style failure = r.throw style p)
    (hreportable : p.Reportable) :
    Transcript.ofOutcome (Reporter.guard style
        ({ printed := shown, reporter := r, result := .error failure } : Outcome Unit))
      = { output := shown ++ r.errorReport style p, code := some 1 } := by
  rw [Reporter.guard]
  dsimp only
  rw [hsettle, Reporter.throw_reportable hfatal hreportable]
  rfl

/-- Every run, whatever its texts are, answers or reports a foreseen failure. -/
theorem solve_answers_or_reports (style : Style) (source : String) (definitions : List String)
    (showsTree : Bool) :
    let request : Request :=
      { expression := some source, definitions := definitions.map some, showsTree }
    Answered style source definitions showsTree (solve style request) ∨
      ∃ failure, (perform style {} request).result = .error failure ∧
        Reported style source definitions showsTree failure (solve style request) := by
  intro request
  rcases perform_cases style source definitions showsTree (rfl : request = _) with
    ⟨table, e, x, hdefine, hread, hvalue, hperform⟩
    | ⟨failure, shown, warning, r, hforeseen, hshown, hwarned, hreporter, hperform⟩
  · refine .inl ⟨table, e, x, hdefine, hread, hvalue, ?_, ?_⟩
    · have legible := Expr.wellMade_ofSource hread
      rw [lineOf, String.toList_append, String.toList_append]
      exact ((Expr.oneLine_render legible).append (by decide)).append (Double.oneLine_answerText x)
    · rw [solve, hperform, String.append_assoc]
      rfl
  · obtain ⟨p, hreportable, hworded, hsettle⟩ := hforeseen.problem
    have hfatal : r.isFatal = true := by rcases hreporter with rfl | rfl <;> rfl
    refine .inr ⟨failure, by rw [hperform], hforeseen, shown, warning, r, p, hshown, hwarned,
      hreporter, hsettle r, hreportable, hworded, ?_⟩
    rw [solve, hperform, ofOutcome_guard hfatal (hsettle r) hreportable]

end CommandLine

end Formula
