import Formula.Problem
set_option autoImplicit false

/-!
# The reporter

A reporter prints problems together with the sources that are being worked on, in the
order in which they were registered.  A fatal reporter ends the program after an error;
another one forgets its sources and lets the work go on.

`Reporter.guard` is the reporter around a piece of work: it reports what made the work
fail, and says what remains of the failure.
-/

namespace Formula

open Text (Style)

/-- A reporter: does it end the program after an error, and the registered sources under
their names. -/
structure Reporter where
  isFatal : Bool := true
  sources : List (String × String) := []
  deriving DecidableEq, Repr, Inhabited

/-- What became of a step: the printed text, the reporter after it, and its result or
failure. -/
structure Outcome (α : Type) where
  printed : String := ""
  reporter : Reporter
  result : Except Failure α

namespace Outcome

/-- The outcome with a text printed before it. -/
def after {α : Type} (text : String) (o : Outcome α) : Outcome α :=
  { o with printed := text ++ o.printed }

/-- Continues with the result, if there is one. -/
def andThen {α β : Type} (o : Outcome α) (next : Reporter → α → Outcome β) : Outcome β :=
  match o.result with
  | .error failure => { printed := o.printed, reporter := o.reporter, result := .error failure }
  | .ok value => (next o.reporter value).after o.printed

end Outcome

namespace Reporter

/-- The name of the source that is given on the command line. -/
def mainSource : String := "<expr>"

/-! ## Sources -/

/-- Sets the source of a name in a list of sources, in its old place or at the end. -/
def setSource (name source : String) : List (String × String) → List (String × String)
  | [] => [(name, source)]
  | entry :: rest =>
      if entry.1 = name then (name, source) :: rest else entry :: setSource name source rest

/-- Registers a source under a name. -/
def register (name source : String) (r : Reporter) : Reporter :=
  { r with sources := setSource name source r.sources }

/-- Forgets the source of a name. -/
def remove (name : String) (r : Reporter) : Reporter :=
  { r with sources := r.sources.filter fun entry => entry.1 != name }

/-! ## Texts -/

/-- A registered source as it is shown above an error. -/
def sourceText (entry : String × String) : String :=
  "  In '" ++ entry.1 ++ "':\n    " ++ entry.2 ++ "\n"

/-- The diagnosis of a problem on lines of its own, if it has one. -/
def diagnosisText (style : Style) (isWarning : Bool) (p : Problem) : String :=
  if p.showsSnippet then p.diagnose style isWarning ++ "\n" else ""

/-- The head of an error report: the sources and the message.  A source that the diagnosis
shows is not shown above the error as well. -/
def errorHead (style : Style) (r : Reporter) (p : Problem) : String :=
  String.join ((r.sources.filter fun entry => !(p.diagnosis && p.snippet == entry.2)).map sourceText)
    ++ (if p.isInternal then style.coloured .red "[internal] " else "")
    ++ style.coloured .red "error: " ++ p.message ++ "\n"

/-- The number of characters before the first occurrence of one text in another. -/
def occurrence? (needle : List Char) : List Char → Option Nat
  | [] => if needle.isEmpty then some 0 else none
  | c :: rest =>
      if needle.isPrefixOf (c :: rest) then some 0 else (occurrence? needle rest).map (· + 1)

/-- Where a warning is: the name of the first source and the column of the snippet in it. -/
def placeText (style : Style) (p : Problem) : List (String × String) → String
  | [] => ""
  | (name, source) :: _ =>
      let column := (occurrence? p.snippet.toList source.toList).getD 0
      style.bold (name ++ ":" ++ toString ((column : Int) + p.start) ++ ": ")

/-- The head of a warning: the place and the message. -/
def warningHead (style : Style) (r : Reporter) (p : Problem) : String :=
  placeText style p r.sources ++ style.coloured .magenta "warning: " ++ p.message ++ "\n"

/-! ## Reports -/

/-- Prints the head of a report and the diagnosis of the problem, and goes on with `next`.  If
the diagnosis is too long to be written, nothing follows the head. -/
def report (style : Style) (isWarning : Bool) (head : String) (r : Reporter) (p : Problem)
    (next : Outcome Unit) : Outcome Unit :=
  match if p.showsSnippet then p.diagnosisFault? else none with
  | some fault => { printed := head, reporter := r, result := .error (.fault fault) }
  | none => next.after (head ++ diagnosisText style isWarning p)

/-- Reports an error. -/
def throw (style : Style) (r : Reporter) (p : Problem) : Outcome Unit :=
  report style false (errorHead style r p) r p {
    reporter := if r.isFatal then r else { r with sources := [] }
    result := if r.isFatal then .error (.exit (some 1)) else .ok () }

/-- Reports a warning. -/
def warn (style : Style) (r : Reporter) (p : Problem) : Outcome Unit :=
  report style true (warningHead style r p) r p { reporter := r, result := .ok () }

/-- The problem that an unforeseen fault is reported as.  Its text is part of a template. -/
def faultProblem (style : Style) (f : Fault) : Except Fault Problem :=
  Problem.ofTemplate style ("unknown error: '" ++ f.name ++ ": " ++ f.text ++ "'") [""] 0 (-1) true true

/-- Reports the failure of a piece of work.  Problems, deep nesting and interrupts are then
settled; an unforeseen fault remains, and so does the end of the program. -/
def settle (style : Style) (r : Reporter) (failure : Failure) : Outcome Unit :=
  match failure with
  | .problem p => r.throw style p
  | .interrupt => r.throw style (.plain "keyboard interrupt")
  | .tooDeep => r.throw style
      (.plain "expression nested too deeply, maximum recursion depth exceeded")
  | .exit code => { reporter := r, result := .error (.exit code) }
  | .fault f =>
      match faultProblem style f with
      | .error flaw => { reporter := r, result := .error (.fault flaw) }
      | .ok p => (r.throw style p).andThen fun r _ =>
          { reporter := r, result := .error (.fault f) }

/-- A piece of work under the eyes of the reporter; none is what remains of a failure that
is settled. -/
def guard {α : Type} (style : Style) (work : Outcome α) : Outcome (Option α) :=
  match work.result with
  | .ok value => { printed := work.printed, reporter := work.reporter, result := .ok (some value) }
  | .error failure =>
      ((work.reporter.settle style failure).andThen fun r _ =>
        { reporter := r, result := .ok none }).after work.printed

end Reporter

end Formula
