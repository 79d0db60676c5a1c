import Formula.Proofs.Wording
import Formula.Reporter
set_option autoImplicit false

/-!
# The report of a foreseen failure

The rules of the language foresee some failures: a definition that is none, or the second one of
a name; a text that is no expression; an expression without a value; too many levels.  Such a
failure is always reported in full.  Its message is a filled template, it is not the program's own
mistake, and its diagnosis can be written because what it points at lies in the text.
-/

namespace Formula

open Text (Style)

/-- The failures that the rules foresee. -/
inductive Failure.Foreseen (style : Style) : Failure → Prop where
  /-- A text is no definition. -/
  | definition (error : DefinitionError) : Foreseen style (.problem (error.problem style))
  /-- A name is defined although it is bound. -/
  | redeclared (name : String) : Foreseen style (.problem (.symbolRedeclared style name))
  /-- Something is missing at a place in a source, or at its end. -/
  | expected (what source : String) {start : Nat} (place : start ≤ source.length) :
      Foreseen style (.problem (.expected style what source start 1))
  /-- Something in a source has no place there. -/
  | unexpected (what source : String) {start : Nat} (place : start + what.length ≤ source.length) :
      Foreseen style (.problem (.unexpected style what source start what.length))
  /-- A source is nested too deeply, which shows at a place in it or at its end. -/
  | nestedTooDeeply (what source : String) {start : Nat} (place : start ≤ source.length) :
      Foreseen style (.problem (.nestedTooDeeply style what source start))
  /-- A name does not stand for what is needed. -/
  | undefined (what : String) (missing : Option String) :
      Foreseen style (.problem (.undefined style what missing))
  /-- A function is given a wrong number of arguments. -/
  | argumentCount (detail : String) : Foreseen style (.problem (.argumentCount style detail))
  /-- An operation has no value. -/
  | logic (detail : String) : Foreseen style (.problem (.logic style detail))
  /-- More levels than can be entered. -/
  | tooDeep : Foreseen style .tooDeep

namespace Fault

/-- What is as long as a text that is there can be written. -/
theorem ofRepetition?_one {held : Nat} {count : Int} (h : 0 ≤ count ∧ count ≤ held) :
    ofRepetition? held 1 count = none := by
  rw [ofRepetition?, if_pos ⟨h.1, by omega⟩]

end Fault

namespace Problem

/-- The problem can be reported: it is not the program's own, and if a diagnosis is shown, then it
can be written. -/
structure Reportable (p : Problem) : Prop where
  notInternal : p.isInternal = false
  diagnosable : p.showsSnippet = true → p.diagnosisFault? = none

theorem reportable_about (cause : Cause) (message detail : String) :
    (about cause message detail).Reportable where
  notInternal := rfl
  diagnosable h := by simp [about, showsSnippet] at h

/-- A span that starts in the source and is not longer than it. -/
theorem reportable_inSource (cause : Cause) (message source : String) {start : Nat} {length : Int}
    (hstart : start ≤ source.length) (hlength : 0 ≤ length ∧ length ≤ max 1 source.length) :
    (inSource cause message source start length).Reportable where
  notInternal := rfl
  diagnosable h := by
    have hsource : 0 < source.length := by
      have : source.isEmpty = false := by simpa [inSource, showsSnippet] using h
      refine Nat.pos_of_ne_zero fun hzero => ?_
      rw [String.length_eq_zero_iff.1 hzero] at this
      cases this
    have hstop : stopOr source (start + length) = start + length := by
      rw [stopOr, if_neg (by omega)]
    have hmarked : (inSource cause message source start length).markedStop
        = max ((start : Int) + length) (start + 1) := by
      rw [markedStop, inSource, hstop]
    rw [diagnosisFault?, hmarked]
    dsimp only [inSource]
    rw [Fault.ofRepetition?_one (by omega), Fault.ofRepetition?_one (by omega)]
    rfl

theorem reportable_plain (message : String) : (plain message).Reportable where
  notInternal := rfl
  diagnosable h := by simp [plain, showsSnippet] at h

end Problem

namespace Outcome

variable {α β γ : Type}

theorem andThen_error {o : Outcome α} {failure : Failure} (h : o.result = .error failure)
    (next : Reporter → α → Outcome β) :
    o.andThen next
      = { printed := o.printed, reporter := o.reporter, result := .error failure } := by
  rw [andThen, h]

theorem andThen_ok {o : Outcome α} {value : α} (h : o.result = .ok value)
    (next : Reporter → α → Outcome β) :
    o.andThen next = (next o.reporter value).after o.printed := by
  rw [andThen, h]

theorem andThen_assoc (o : Outcome α) (next : Reporter → α → Outcome β)
    (last : Reporter → β → Outcome γ) :
    (o.andThen next).andThen last = o.andThen fun r value => (next r value).andThen last := by
  cases h : o.result with
  | error failure => rw [andThen_error h, andThen_error h, andThen_error rfl]
  | ok value =>
      have hafter : ((next o.reporter value).after o.printed).result
          = (next o.reporter value).result := rfl
      rw [andThen_ok h, andThen_ok h]
      cases h' : (next o.reporter value).result with
      | error failure =>
          rw [andThen_error h', andThen_error (hafter.trans h')]
          rfl
      | ok value' =>
          rw [andThen_ok h', andThen_ok (hafter.trans h')]
          simp [after, String.append_assoc]

end Outcome

namespace Reporter

variable {style : Style}

/-- The text of an error report. -/
def errorReport (style : Style) (r : Reporter) (p : Problem) : String :=
  errorHead style r p ++ diagnosisText style false p

/-- The reporter after an error: a fatal one keeps its sources. -/
def afterError (r : Reporter) : Reporter := if r.isFatal then r else { r with sources := [] }

/-- A problem is reported if its diagnosis can be written or is not shown. -/
theorem throw_writable (r : Reporter) {p : Problem}
    (h : p.showsSnippet = true → p.diagnosisFault? = none) :
    r.throw style p =
      { printed := r.errorReport style p
        reporter := r.afterError
        result := if r.isFatal then .error (.exit (some 1)) else .ok () } := by
  have hfault : (if p.showsSnippet = true then p.diagnosisFault? else none) = none := by
    split
    · next hshows => exact h hshows
    · rfl
  rw [throw, report, hfault]
  simp [Outcome.after, errorReport, afterError]

theorem throw_reportable {r : Reporter} {p : Problem} (hfatal : r.isFatal = true)
    (h : p.Reportable) :
    r.throw style p
      = { printed := r.errorReport style p, reporter := r, result := .error (.exit (some 1)) } := by
  rw [throw_writable r h.diagnosable, afterError, hfatal]
  rfl

end Reporter

namespace Failure

variable {style : Style}

/-- What too many levels are reported as. -/
def tooDeepProblem : Problem :=
  .plain "expression nested too deeply, maximum recursion depth exceeded"

/-- A foreseen failure is reported as a problem that can be reported and is worded by a template. -/
theorem Foreseen.problem {failure : Failure} (h : failure.Foreseen style) :
    ∃ p : Problem, p.Reportable ∧ p.Worded style ∧
      ∀ r : Reporter, r.settle style failure = r.throw style p := by
  cases h with
  | definition error =>
      cases error with
      | noName text =>
          exact ⟨_, Problem.reportable_about _ _ _,
            ⟨_, by decide, _, Problem.noName_fills style text⟩, fun _ => rfl⟩
      | noValue text =>
          exact ⟨_, Problem.reportable_about _ _ _,
            ⟨_, by decide, _, Problem.noValue_fills style text⟩, fun _ => rfl⟩
  | redeclared name =>
      exact ⟨_, Problem.reportable_about _ _ _,
        ⟨_, by decide, _, Problem.symbolRedeclared_fills style name⟩, fun _ => rfl⟩
  | expected what source place =>
      exact ⟨_, Problem.reportable_inSource _ _ _ place (by omega),
        ⟨_, by decide, _, Problem.expected_fills style what source _ _⟩, fun _ => rfl⟩
  | unexpected what source place =>
      exact ⟨_, Problem.reportable_inSource _ _ _ (by omega) (by omega),
        ⟨_, by decide, _, Problem.unexpected_fills style what source _ _⟩, fun _ => rfl⟩
  | nestedTooDeeply what source place =>
      exact ⟨_, Problem.reportable_inSource _ _ _ place (by omega),
        ⟨_, by decide, _, Problem.nestedTooDeeply_fills style what source _⟩, fun _ => rfl⟩
  | undefined what missing =>
      exact ⟨_, Problem.reportable_about _ _ _,
        ⟨_, by decide, _, Problem.undefined_fills style what missing⟩, fun _ => rfl⟩
  | argumentCount detail =>
      exact ⟨_, Problem.reportable_about _ _ _,
        ⟨_, by decide, _, Problem.argumentCount_fills style detail⟩, fun _ => rfl⟩
  | logic detail =>
      exact ⟨_, Problem.reportable_about _ _ _,
        ⟨_, by decide, _, Problem.logic_fills style detail⟩, fun _ => rfl⟩
  | tooDeep =>
      exact ⟨tooDeepProblem, Problem.reportable_plain _,
        ⟨_, by decide, _, Problem.plain_fills (by decide) style⟩, fun _ => rfl⟩

end Failure

end Formula
