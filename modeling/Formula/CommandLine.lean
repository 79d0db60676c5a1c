import Formula.CommandLine.Arguments
import Formula.Definition
import Formula.Session
set_option autoImplicit false

/-!
# The command line

One run of the program: the arguments are read, the definitions are made in their order,
the outline is printed if it was asked for, and the expression is run.  The last line of
a successful run is the canonical text and the value.  An error is reported and ends the
run with code 1, a usage error with code 2.
-/

namespace Formula

open Text (Style)

namespace CommandLine

/-- What a run leaves behind: the texts on both outputs, and the code that it ended with, if
it did not return by itself. -/
structure Transcript where
  output : String := ""
  errors : String := ""
  code : Option Int := none
  deriving DecidableEq, Repr, Inhabited

/-- The expression that is run when none is given. -/
def defaultExpression : String := "2 - 3 * 4"

/-- The line that shows how the program is used. -/
def usage : String := "usage: exprsolver [-h] [-D NAME=VALUE] [--tree] [expression]\n"

/-- The help text. -/
def help : String :=
  usage ++ "\n"
    ++ "Solve a single-line arithmetic expression.\n"
    ++ "\n"
    ++ "positional arguments:\n"
    ++ "  expression            expression to solve (default: '" ++ defaultExpression ++ "')\n"
    ++ "\n"
    ++ "options:\n"
    ++ "  -h, --help            show this help message and exit\n"
    ++ "  -D NAME=VALUE, --define NAME=VALUE\n"
    ++ "                        define a constant, e.g. -D tau=6.283\n"
    ++ "  --tree                also print the syntax tree\n"

/-- The text of a usage error. -/
def usageText (error : UsageError) : String :=
  usage ++ "exprsolver: error: " ++ error.message ++ "\n"

/-- Makes the definitions one after the other. -/
def defineAll (style : Style) (table : SymbolTable) :
    List (Option String) → Except Failure SymbolTable
  | [] => .ok table
  | none :: _ => .error (.fault .missingDefinition)
  | some text :: rest =>
      match Definition.ofText text with
      | .error error => .error (.problem (error.problem style))
      | .ok definition =>
          match table.define definition.name (.constant definition.value) with
          | .error error => .error (.ofSymbolError style error)
          | .ok table => defineAll style table rest

/-- The line that ends a successful run. -/
def answerLine (answer : Answer) : Except Fault String :=
  match Arithmetic.answerText answer.value with
  | .error fault => .error fault
  | .ok text => .ok (answer.text ++ " = " ++ text ++ "\n")

/-- Prints the line that ends a successful run. -/
def printAnswer (r : Reporter) (answer : Answer) : Outcome Unit :=
  match answerLine answer with
  | .error fault => { reporter := r, result := .error (.fault fault) }
  | .ok line => { printed := line, reporter := r, result := .ok () }

/-- Prints the outline, if it is asked for. -/
def showTree (style : Style) (r : Reporter) (showsTree : Bool) (source : String) : Outcome Unit :=
  if showsTree then
    match Session.outline style source with
    | .error failure => { reporter := r, result := .error failure }
    | .ok text => { printed := text ++ "\n", reporter := r, result := .ok () }
  else { reporter := r, result := .ok () }

/-- Does what the arguments ask for. -/
def perform (style : Style) (r : Reporter) (request : Request) : Outcome Unit :=
  let source := request.expression.getD defaultExpression
  match defineAll style {} request.definitions with
  | .error failure => { reporter := r, result := .error failure }
  | .ok table =>
      (showTree style r request.showsTree source).andThen fun r _ =>
        (Session.run style table r source).andThen printAnswer

/-- The transcript of a piece of work whose failures were settled. -/
def Transcript.ofOutcome {α : Type} (o : Outcome α) : Transcript :=
  match o.result with
  | .ok _ => { output := o.printed }
  | .error (.exit code) => { output := o.printed, code }
  | .error _ => { output := o.printed, code := some 1 }

/-- Does what is asked for under the eyes of a fatal reporter. -/
def solve (style : Style) (request : Request) : Transcript :=
  .ofOutcome (Reporter.guard style (perform style {} request))

/-- One run of the program. -/
def run (style : Style) (arguments : List String) : Transcript :=
  match Request.ofArguments arguments with
  | .error error => { errors := usageText error, code := some 2 }
  | .ok request =>
      if request.wantsHelp then { output := help, code := some 0 } else solve style request

end CommandLine

end Formula
