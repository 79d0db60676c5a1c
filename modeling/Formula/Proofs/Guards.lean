import Formula.Proofs.Reports
set_option autoImplicit false

/-!
# What a reporter promises about guarded work

A reporter around a piece of work promises one report for every failure but the end of the
program: the message of a problem, a fixed text for an interrupt and for deep nesting, and for a
fault its name and its text, word by word.  The promise is kept unless there is something that
cannot be written.  The message of a fault is a template, so a brace in it is no longer a brace;
and the diagnosis of a problem far outside its snippet is too long.
-/

namespace Formula

open Text (Style)
open Text.Template (Plain)

/-! ## The promise -/

/-- The text that a fault is to be reported with. -/
def Fault.report (f : Fault) : String := "unknown error: '" ++ f.name ++ ": " ++ f.text ++ "'"

theorem Fault.report_eq (f : Fault) :
    f.report = "unknown error: '" ++ f.name ++ ": " ++ f.text ++ "'" := rfl

/-- The program's own problem with the given message. -/
def Problem.unknown (message : String) : Problem :=
  { cause := .general, message, snippet := "", stop := 0, isInternal := true }

namespace Failure

/-- The problem that a failure is to be reported as, unless it is the end of the program. -/
def reportedAs? : Failure → Option Problem
  | .problem p => some p
  | .fault f => some (.unknown f.report)
  | .tooDeep => some tooDeepProblem
  | .interrupt => some (.plain "keyboard interrupt")
  | .exit _ => none

/-- What is left of a failure that was reported: a fault goes on, and everything else is
settled. -/
def residue {α : Type} : Failure → Except Failure (Option α)
  | .fault f => .error (.fault f)
  | _ => .ok none

end Failure

namespace Reporter

variable {α : Type} {style : Style}

/-- The registered sources, but for one that the diagnosis shows. -/
def sourcesText (r : Reporter) (p : Problem) : String :=
  String.join ((r.sources.filter fun entry => !(p.diagnosis && p.snippet == entry.2)).map sourceText)

/-- The line with the message, which is marked if the problem is the program's own. -/
def errorLine (style : Style) (p : Problem) : String :=
  (if p.isInternal then style.coloured .red "[internal] " else "")
    ++ style.coloured .red "error: " ++ p.message ++ "\n"

/-- What is promised of work that failed: one report behind what the work printed, and then the
end of the program if the reporter is fatal, and the residue of the failure if not.  The end of
the program passes without a report. -/
def promised (style : Style) (work : Outcome α) (failure : Failure) : Outcome (Option α) :=
  match failure.reportedAs? with
  | none => { printed := work.printed, reporter := work.reporter, result := .error failure }
  | some p =>
      { printed := work.printed ++ (work.reporter.sourcesText p ++ errorLine style p
          ++ diagnosisText style false p)
        reporter := if work.reporter.isFatal then work.reporter
          else { work.reporter with sources := [] }
        result := if work.reporter.isFatal then .error (.exit (some 1)) else failure.residue }

end Reporter

/-! ## What can be written -/

/-- Everything that belongs to the report can be written: the diagnosis of a problem, if it is
shown, and the text of a fault, which is filled as a template. -/
def Failure.Writable (style : Style) : Failure → Prop
  | .problem p => p.showsSnippet = true → p.diagnosisFault? = none
  | .fault f => Text.Template.fill f.report [style.bold ""] = .ok f.report
  | _ => True

/-- A problem points into its snippet, and a fault has no braces in its name and its text. -/
def Failure.Harmless : Failure → Prop
  | .problem p =>
      0 ≤ p.start ∧ p.start ≤ p.snippet.length ∧ p.stop ≤ p.snippet.length
  | .fault f => Plain f.name.toList ∧ Plain f.text.toList
  | _ => True

namespace Problem

/-- The diagnosis of a span inside the snippet can be written. -/
theorem diagnosisFault?_inside {p : Problem} (hstart : 0 ≤ p.start)
    (hplace : p.start ≤ p.snippet.length) (hstop : p.stop ≤ p.snippet.length) :
    p.diagnosisFault? = none := by
  have hmarked : 0 ≤ p.markedStop - p.start - 1 ∧
      p.markedStop - p.start - 1 ≤ p.snippet.length := by
    unfold markedStop
    omega
  rw [diagnosisFault?, Fault.ofRepetition?_one ⟨hstart, hplace⟩, Fault.ofRepetition?_one hmarked]
  rfl

end Problem

theorem Fault.plain_report {f : Fault} (hname : Plain f.name.toList) (htext : Plain f.text.toList) :
    Plain f.report.toList := by
  have hopening : Plain "unknown error: '".toList := by decide
  have hcolon : Plain ": ".toList := by decide
  have hclosing : Plain "'".toList := by decide
  rw [report_eq, String.toList_append, String.toList_append, String.toList_append,
    String.toList_append]
  exact (((hopening.append hname).append hcolon).append htext).append hclosing

/-- What is harmless can be written. -/
theorem Failure.Harmless.writable {failure : Failure} (h : failure.Harmless) (style : Style) :
    failure.Writable style := by
  cases failure with
  | problem p =>
      obtain ⟨hstart, hplace, hstop⟩ := h
      exact fun _ => Problem.diagnosisFault?_inside hstart hplace hstop
  | fault f => exact Text.Template.fill_plain (Fault.plain_report h.1 h.2) _
  | _ => trivial

namespace Reporter

variable {α : Type} {style : Style}

/-! ## Settling a failure -/

theorem errorReport_eq (style : Style) (r : Reporter) (p : Problem) :
    r.errorReport style p = r.sourcesText p ++ errorLine style p ++ diagnosisText style false p := by
  simp only [errorReport, errorHead, sourcesText, errorLine, String.append_assoc]

theorem throw_unwritable (r : Reporter) {p : Problem} {flaw : Fault}
    (hshows : p.showsSnippet = true) (hflaw : p.diagnosisFault? = some flaw) :
    (r.throw style p).result = .error (.fault flaw) := by
  rw [throw, report, if_pos hshows, hflaw]

/-- A fault is reported as what its text is filled to. -/
theorem faultProblem_eq (style : Style) (f : Fault) :
    faultProblem style f =
      match Text.Template.fill f.report [style.bold ""] with
      | .error flaw => .error flaw.fault
      | .ok message => .ok (.unknown message) := by
  unfold faultProblem Problem.ofTemplate
  rw [List.map_singleton, ← Fault.report_eq]
  rfl

theorem faultProblem_writable {f : Fault} (h : Failure.Writable style (.fault f)) :
    faultProblem style f = .ok (.unknown f.report) := by
  have hfill : Text.Template.fill f.report [style.bold ""] = .ok f.report := h
  rw [faultProblem_eq, hfill]

/-- The program's own problem is reported without a diagnosis. -/
theorem not_showsSnippet_unknown (message : String) :
    ¬ (Problem.unknown message).showsSnippet = true := by
  simp [Problem.unknown, Problem.showsSnippet]

/-- A thrown problem that can be reported, and what is left behind if the reporter is not fatal. -/
theorem thrown_andThen (r : Reporter) {p : Problem}
    (h : p.showsSnippet = true → p.diagnosisFault? = none) (earlier : String)
    (rest : Except Failure (Option α)) :
    ((r.throw style p).andThen fun r _ => { reporter := r, result := rest }).after earlier =
      { printed := earlier ++ r.errorReport style p
        reporter := r.afterError
        result := if r.isFatal then .error (.exit (some 1)) else rest } := by
  rw [throw_writable r h]
  cases r.isFatal with
  | true => rfl
  | false =>
      rw [Outcome.andThen_ok rfl]
      simp [Outcome.after]

/-- A fault is thrown as a problem, and then it goes on. -/
theorem guard_fault {work : Outcome α} {f : Fault} {p : Problem}
    (failed : work.result = .error (.fault f)) (hproblem : faultProblem style f = .ok p) :
    guard style work =
      ((work.reporter.throw style p).andThen fun r _ =>
        { reporter := r, result := .error (.fault f) }).after work.printed := by
  rw [guard, failed]
  dsimp only [settle]
  rw [hproblem]
  dsimp only
  rw [Outcome.andThen_assoc]
  rfl

/-- A fault with a text that cannot be filled is not reported, and the flaw takes its place. -/
theorem guard_flaw {work : Outcome α} {f flaw : Fault}
    (failed : work.result = .error (.fault f)) (hproblem : faultProblem style f = .error flaw) :
    guard style work =
      { printed := work.printed, reporter := work.reporter, result := .error (.fault flaw) } := by
  rw [guard, failed]
  dsimp only [settle]
  rw [hproblem]
  simp [Outcome.andThen, Outcome.after]

/-! ## The promise is kept -/

theorem promised_eq {work : Outcome α} {failure : Failure} {p : Problem}
    (hreported : failure.reportedAs? = some p) :
    promised style work failure =
      { printed := work.printed ++ work.reporter.errorReport style p
        reporter := work.reporter.afterError
        result := if work.reporter.isFatal then .error (.exit (some 1)) else failure.residue } := by
  rw [promised, hreported, errorReport_eq, afterError]

/-- A failure that can be written is reported as promised. -/
theorem guard_writable {work : Outcome α} {failure : Failure}
    (failed : work.result = .error failure) (h : failure.Writable style) :
    guard style work = promised style work failure := by
  cases failure with
  | problem p =>
      rw [guard, failed, promised_eq rfl]
      exact thrown_andThen _ h _ _
  | tooDeep =>
      rw [guard, failed, promised_eq rfl]
      exact thrown_andThen _ (Problem.reportable_plain _).diagnosable _ _
  | interrupt =>
      rw [guard, failed, promised_eq rfl]
      exact thrown_andThen _ (Problem.reportable_plain _).diagnosable _ _
  | fault f =>
      rw [guard_fault failed (faultProblem_writable h), promised_eq rfl]
      exact thrown_andThen _ (fun hshows => absurd hshows (not_showsSnippet_unknown _)) _ _
  | exit code =>
      rw [guard, failed]
      simp [settle, Outcome.andThen, Outcome.after, promised, Failure.reportedAs?]

/-! ## What was reported could be written -/

/-- The message can be read off a report. -/
theorem errorReport_unknown_injective {r : Reporter} {message message' : String}
    (h : r.errorReport style (.unknown message) = r.errorReport style (.unknown message')) :
    message = message' := by
  unfold errorReport errorHead diagnosisText at h
  rw [if_neg (not_showsSnippet_unknown message), if_neg (not_showsSnippet_unknown message')] at h
  rw [String.append_left_inj, String.append_left_inj] at h
  exact (String.append_right_inj _).1 h

/-- No report is empty. -/
theorem errorReport_ne_empty (style : Style) (r : Reporter) (p : Problem) :
    r.errorReport style p ≠ "" := by
  intro hempty
  have hlength := congrArg String.length hempty
  simp [errorReport, errorHead, String.length_append] at hlength

/-- A diagnosis that cannot be written leaves a fault that nothing promised. -/
theorem diagnosisFault?_of_guard {work : Outcome α} {p : Problem}
    (failed : work.result = .error (.problem p))
    (h : guard style work = promised style work (.problem p)) (hshows : p.showsSnippet = true) :
    p.diagnosisFault? = none := by
  cases hflaw : p.diagnosisFault? with
  | none => rfl
  | some flaw =>
      have hthrow : (work.reporter.throw style p).result = .error (.fault flaw) :=
        throw_unwritable _ hshows hflaw
      have hresult : (guard style work).result = .error (.fault flaw) := by
        rw [guard, failed]
        dsimp only [settle]
        rw [Outcome.andThen_error hthrow]
        rfl
      rw [h, promised_eq rfl] at hresult
      dsimp only at hresult
      split at hresult <;> cases hresult

/-- The report of a fault shows what its text was filled to. -/
theorem fill_report_of_guard {work : Outcome α} {f : Fault}
    (failed : work.result = .error (.fault f))
    (h : guard style work = promised style work (.fault f)) :
    Text.Template.fill f.report [style.bold ""] = .ok f.report := by
  have hprinted : (guard style work).printed
      = work.printed ++ work.reporter.errorReport style (.unknown f.report) := by
    rw [h, promised_eq rfl]
  cases hfill : Text.Template.fill f.report [style.bold ""] with
  | error flaw =>
      have hproblem : faultProblem style f = .error flaw.fault := by
        rw [faultProblem_eq, hfill]
      rw [guard_flaw failed hproblem, eq_comm, String.append_eq_left_iff] at hprinted
      exact absurd hprinted (errorReport_ne_empty _ _ _)
  | ok message =>
      have hproblem : faultProblem style f = .ok (.unknown message) := by
        rw [faultProblem_eq, hfill]
      rw [guard_fault failed hproblem,
        thrown_andThen _ fun hshows => absurd hshows (not_showsSnippet_unknown message)] at hprinted
      have hreport := (String.append_right_inj _).1 hprinted
      rw [errorReport_unknown_injective hreport]

/-- What is reported as promised could be written. -/
theorem writable_of_guard {work : Outcome α} {failure : Failure}
    (failed : work.result = .error failure)
    (h : guard style work = promised style work failure) : failure.Writable style := by
  cases failure with
  | problem p => exact diagnosisFault?_of_guard failed h
  | fault f => exact fill_report_of_guard failed h
  | _ => trivial

/-- **A reporter keeps its promise exactly for what can be written.**  Work that failed is reported
once, and settled up to its residue, if and only if the diagnosis of its problem can be written
and the text of its fault is filled to itself.  That is so if the problem points into its snippet
and there is no brace in the name and the text of the fault. -/
theorem guard_promised_iff {work : Outcome α} {failure : Failure}
    (failed : work.result = .error failure) :
    (guard style work = promised style work failure ↔ failure.Writable style) ∧
      (failure.Harmless → failure.Writable style) :=
  ⟨⟨writable_of_guard failed, guard_writable failed⟩, fun h => h.writable style⟩

/-- A fault without braces is reported, and goes on. -/
theorem guard_promised_odd :
    let r : Reporter := { isFatal := false, sources := [("<expr>", "2 + x")] }
    let work : Outcome Unit := { reporter := r, result := .error (.fault (.value "odd")) }
    (guard .plain work).printed =
        "  In '<expr>':\n    2 + x\n[internal] error: unknown error: 'ValueError: odd'\n" ∧
      (guard .plain work).reporter.sources = [] ∧
      (guard .plain work).result = .error (.fault (.value "odd")) := by
  intro r work
  have failed : work.result = .error (.fault (.value "odd")) := rfl
  have harmless : Failure.Harmless (.fault (.value "odd")) := ⟨by decide, by decide⟩
  obtain ⟨kept, writable⟩ := @guard_promised_iff Unit .plain work _ failed
  rw [kept.2 (writable harmless)]
  exact ⟨by decide +kernel, rfl, rfl⟩

/-- A fault whose text has braces is not reported, and another one goes on in its place. -/
theorem guard_braces_unreported :
    let f : Fault := .value "\x7bx\x7d"
    let work : Outcome Unit := { reporter := { isFatal := false }, result := .error (.fault f) }
    (guard .plain work).printed = "" ∧
      (guard .plain work).result = .error (.fault (.key "x")) ∧
      guard .plain work ≠ promised .plain work (.fault f) := by
  intro f work
  have hproblem : faultProblem .plain f = .error (.key "x") := by cbv
  have hguard : guard .plain work =
      { printed := "", reporter := work.reporter, result := .error (.fault (.key "x")) } :=
    guard_flaw rfl hproblem
  have hother : Fault.key "x" ≠ f := by decide +kernel
  rw [hguard]
  refine ⟨rfl, rfl, fun hkept => ?_⟩
  have hresult := congrArg Outcome.result hkept
  exact hother (Failure.fault.inj (Except.error.inj hresult))

end Reporter

end Formula
