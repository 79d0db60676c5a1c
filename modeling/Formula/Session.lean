import Formula.Calculator
import Formula.Expr.Outline
import Formula.Expr.Printer
import Formula.Reader.Primary
import Formula.Reporter
import Formula.Token.Lexer
set_option autoImplicit false

/-!
# Sessions

A session works on one source at a time against a table of symbols: it defines
constants, reads expressions, and runs sources, which gives their canonical text and
their value.  A source that is being run is registered with the reporter and forgotten
when its value is found, before its text is written.
-/

namespace Formula

open Text (Style)

/-- Reads a source as an expression. -/
def Expr.ofSource (style : Style) (source : String) : Except Failure Expr :=
  match Expr.ofTokens (Token.ofText source) with
  | .ok e _ => .ok e
  | .fail refusal rest => .error (.ofWholeRefusal style source refusal rest)

/-- The table with one more constant, the value being written as a literal. -/
def SymbolTable.defineConstant (style : Style) (table : SymbolTable) (name literal : String) :
    Except Failure SymbolTable :=
  match Double.ofLiteral? literal with
  | none => .error (.fault (.notANumber literal))
  | some x =>
      match table.define name (.constant x) with
      | .error error => .error (.ofSymbolError style error)
      | .ok table => .ok table

/-- What a run gives: the canonical text and the value. -/
structure Answer where
  text : String
  value : Double
  deriving DecidableEq, Repr

namespace Session

/-- The warning about a value that is not finite. -/
def notFiniteWarning (style : Style) (source : String) : Problem :=
  .about .general ("'" ++ style.bold source ++ "' evaluates to a non-finite value") source

/-- The outline of a source. -/
def outline (style : Style) (source : String) : Except Failure String :=
  match Expr.ofSource style source with
  | .error failure => .error failure
  | .ok e =>
      match e.outline? 0 with
      | .ok text => .ok text
      | .error error => .error (.ofOutlineError error)

/-- The expression of a source and its value. -/
def evaluate (style : Style) (table : SymbolTable) (source : String) :
    Except Failure (Expr × Double) :=
  match Expr.ofSource style source with
  | .error failure => .error failure
  | .ok e =>
      match e.evaluate table with
      | .error error => .error (.ofEvaluation style error)
      | .ok x => .ok (e, x)

/-- Warns if the value is not finite. -/
def warnUnlessFinite (style : Style) (r : Reporter) (source : String) (x : Double) : Outcome Unit :=
  if x.isFinite then { reporter := r, result := .ok () }
  else r.warn style (notFiniteWarning style source)

/-- The answer of a run, unless its text is nested too deeply to be written. -/
def answer (e : Expr) (x : Double) : Except Failure Answer :=
  match e.render? with
  | some text => .ok ⟨text, x⟩
  | none => .error .tooDeep

/-- Runs a source. -/
def run (style : Style) (table : SymbolTable) (r : Reporter) (source : String) : Outcome Answer :=
  let r := r.register Reporter.mainSource source
  match evaluate style table source with
  | .error failure => { reporter := r, result := .error failure }
  | .ok (e, x) =>
      (warnUnlessFinite style r source x).andThen fun r _ =>
        { reporter := r.remove Reporter.mainSource, result := answer e x }

end Session

end Formula
