import Formula.Double.Printer
import Formula.Expr.Outline
import Formula.Expr.Value
import Formula.Reader.Reply
import Formula.Text.Slice
import Formula.Text.Style
import Formula.Text.Template
set_option autoImplicit false

/-!
# Problems

A problem is an error or a warning that is ready to be reported: its cause, its message,
the snippet that it is about, and the span of the snippet that it points at.

Most problems have a fixed wording around what they name.  The general ones take their
message from a template, and a template can be at fault itself.
-/

namespace Formula

open Text (Style)

/-- What a problem is about. -/
inductive Cause where
  /-- Nothing in particular. -/
  | general
  /-- The text is no expression. -/
  | notAnExpression (what : String)
  /-- Something is expected that is not there. -/
  | expected (what : String)
  /-- Something has no place where it stands. -/
  | unexpected (what : String)
  /-- A symbol. -/
  | symbol (name : String)
  | symbolNotFound (name : String)
  | symbolRedeclared (name : String)
  /-- The expression has no value. -/
  | noValue
  /-- A name does not stand for what is needed; `missing` is the name if it is not bound. -/
  | undefined (what : String) (missing : Option String)
  | argumentCount (detail : String)
  | logic (detail : String)
  deriving DecidableEq, Repr, Inhabited

/-- A problem to report. -/
structure Problem where
  cause : Cause
  message : String
  /-- The snippet that the problem is about. -/
  snippet : String
  /-- The span of the snippet that a diagnosis points at; the stop is not part of it. -/
  start : Int := 0
  stop : Int
  /-- Is the snippet shown under the message? -/
  diagnosis : Bool := true
  /-- Is it a problem of the program itself? -/
  isInternal : Bool := false
  deriving DecidableEq, Repr, Inhabited

namespace Problem

/-! ## General problems -/

/-- The stop that -1 stands for is the end of the snippet. -/
def stopOr (snippet : String) (stop : Int) : Int :=
  if stop = -1 then snippet.length else stop

/-- A problem whose message is a template filled with bold snippets, the first of which it
is about.  Without any snippet it fails, but only after the template was filled. -/
def ofTemplate (style : Style) (template : String) (snippets : List String)
    (start stop : Int) (diagnosis isInternal : Bool) : Except Fault Problem :=
  match Text.Template.fill template (snippets.map style.bold) with
  | .error flaw => .error flaw.fault
  | .ok message =>
      match snippets with
      | [] => .error .missingArgument
      | snippet :: _ => .ok {
          cause := .general, message, snippet, start, stop := stopOr snippet stop,
          diagnosis, isInternal }

/-- The problem with another cause. -/
def withCause (cause : Cause) (p : Problem) : Problem := { p with cause }

/-- A problem with a text that is no expression: `template` may name the source and what is
wrong in it.  It points at `length` characters of the source from `start` on, and shows the
source unless that is empty. -/
def notAnExpression (style : Style) (template what source : String) (start length : Int) :
    Except Fault Problem :=
  match ofTemplate style template [source, what] start (start + length) (!source.isEmpty) false with
  | .error fault => .error fault
  | .ok p => .ok (p.withCause (.notAnExpression what))

/-- A problem with a symbol, whose name the template may use. -/
def ofSymbol (style : Style) (template name : String) : Except Fault Problem :=
  match ofTemplate style template [name] 0 (-1) false false with
  | .error fault => .error fault
  | .ok p => .ok (p.withCause (.symbol name))

/-- A problem with a value, of which the template may use a detail. -/
def noValue (style : Style) (template detail : String) : Except Fault Problem :=
  match ofTemplate style template [detail] 0 (-1) false false with
  | .error fault => .error fault
  | .ok p => .ok (p.withCause .noValue)

/-! ## Problems of fixed wording -/

/-- A problem that is about a detail and shows no snippet. -/
def about (cause : Cause) (message detail : String) : Problem :=
  { cause, message, snippet := detail, stop := detail.length, diagnosis := false }

/-- A problem at a place in a source. -/
def inSource (cause : Cause) (message source : String) (start length : Int) : Problem :=
  { cause, message, snippet := source, start, stop := stopOr source (start + length),
    diagnosis := !source.isEmpty }

/-- Something is missing at a place in a source. -/
def expected (style : Style) (what source : String) (start length : Int) : Problem :=
  inSource (.expected what) ("expected '" ++ style.bold what ++ "'") source start length

/-- Something stands in a source where it has no place. -/
def unexpected (style : Style) (what source : String) (start length : Int) : Problem :=
  inSource (.unexpected what) ("unexpected '" ++ style.bold what ++ "'") source start length

/-- An expression is nested too deeply. -/
def nestedTooDeeply (style : Style) (what source : String) (start : Int) : Problem :=
  inSource (.notAnExpression what)
    ("expression nested too deeply at '" ++ style.bold what ++ "'") source start 1

def symbolNotFound (style : Style) (name : String) : Problem :=
  about (.symbolNotFound name) ("symbol '" ++ style.bold name ++ "' not found") name

def symbolRedeclared (style : Style) (name : String) : Problem :=
  about (.symbolRedeclared name) ("redeclaration of symbol '" ++ style.bold name ++ "'") name

/-- A name does not stand for what is needed. -/
def undefined (style : Style) (what : String) (missing : Option String) : Problem :=
  about (.undefined what missing) ("undefined " ++ style.bold what) what

def argumentCount (style : Style) (detail : String) : Problem :=
  about (.argumentCount detail) ("invalid argument count: " ++ style.bold detail) detail

def logic (style : Style) (detail : String) : Problem :=
  about (.logic detail) ("logic error: " ++ style.bold detail) detail

/-- A message about the program itself or its use, without any snippet. -/
def plain (message : String) : Problem := { cause := .general, message, snippet := "", stop := 0 }

/-- An operator of the wrong sort in a tree, which is the program's own mistake. -/
def wrongOperator (style : Style) (op : Token) (sort : String) : Problem :=
  { cause := .general, message := "'" ++ style.bold op.text ++ "' is not a " ++ sort ++ " operator",
    snippet := op.text, stop := op.text.length, isInternal := true }

/-! ## Diagnosis -/

/-- The end of the span that a diagnosis marks, which is at least one character wide. -/
def markedStop (p : Problem) : Int := max p.stop (p.start + 1)

/-- The source with a span of it marked, and on a line of its own a caret and tildes under
the span. -/
def diagnose (style : Style) (isWarning : Bool) (p : Problem) : String :=
  let colour : Text.Colour := if isWarning then .magenta else .red
  let cs := p.snippet.toList
  let stop := p.markedStop
  "  " ++ String.ofList (Text.takeTo cs p.start)
    ++ style.coloured colour (String.ofList (Text.cut cs p.start stop))
    ++ String.ofList (Text.dropTo cs stop) ++ "\n"
    ++ "  " ++ String.ofList (Text.copies ' ' p.start)
    ++ style.coloured colour (String.ofList ('^' :: Text.copies '~' (stop - p.start - 1)))

/-- What is at fault with a diagnosis whose second line is too long to be written. -/
def diagnosisFault? (p : Problem) : Option Fault :=
  (Fault.ofRepetition? p.snippet.length 1 p.start).or
    (Fault.ofRepetition? p.snippet.length 1 (p.markedStop - p.start - 1))

/-- Is the snippet shown under the message? -/
def showsSnippet (p : Problem) : Bool := !p.isInternal && !p.snippet.isEmpty && p.diagnosis

end Problem

/-! ## Failures -/

/-- How a piece of work can fail. -/
inductive Failure where
  /-- A problem to report. -/
  | problem (p : Problem)
  /-- An unforeseen fault. -/
  | fault (f : Fault)
  /-- More levels than can be entered. -/
  | tooDeep
  /-- The user broke off. -/
  | interrupt
  /-- The program is to end with this code, if any. -/
  | exit (code : Option Int)
  deriving DecidableEq, Repr, Inhabited

namespace Failure

/-- The column of a token, or the end of the source if there is none or it has no column. -/
def columnOf (source : String) : List Token → Int
  | [] => source.length
  | t :: _ => max t.start 0

/-- The failure of a reader that stopped in front of `rest`. -/
def ofRefusal (style : Style) (source : String) (refusal : Refusal) (rest : List Token) : Failure :=
  match refusal with
  | .expected what => .problem (.expected style what.text source (columnOf source rest) 1)
  | .unexpected token =>
      .problem (.unexpected style token.text source (max token.start 0) token.text.length)
  | .blankNumber => .fault .missingNumber
  | .tooDeep => .tooDeep

/-- The failure of reading a whole expression: too many levels are a problem of the text. -/
def ofWholeRefusal (style : Style) (source : String) (refusal : Refusal) (rest : List Token) :
    Failure :=
  match refusal with
  | .tooDeep =>
      let what := match rest with
        | [] => "end of input"
        | t :: _ => t.text
      .problem (.nestedTooDeeply style what source (columnOf source rest))
  | refusal => ofRefusal style source refusal rest

/-- The failure of a request to a table. -/
def ofSymbolError (style : Style) : SymbolError → Failure
  | .notFound name => .problem (.symbolNotFound style name)
  | .redeclared name => .problem (.symbolRedeclared style name)

/-- The failure of an outline. -/
def ofOutlineError : Expr.OutlineError → Failure
  | .tooDeep => .tooDeep
  | .fault f => .fault f

/-- What is said about a factorial that does not exist. -/
def factorialText : Double.FactorialError → String
  | .belowOne x => "factorial of a value less than 1 (" ++ x.toBriefText ++ ")"
  | .notInteger x => "factorial of a non-integer (" ++ x.toBriefText ++ ")"

/-- What is said about a wrong number of arguments. -/
def argumentCountText (name : String) (arity : Int) (variadic : Bool) (given : Nat) : String :=
  name ++ (if variadic then " expects at least " else " expects ") ++ toString arity
    ++ ", got " ++ toString given

/-- The failure of a walk over an expression. -/
def ofEvalError (style : Style) : EvalError → Failure
  | .undefined sought name bound =>
      .problem (.undefined style (sought.text ++ " " ++ name) (if bound then none else some name))
  | .argumentCount name arity variadic given =>
      .problem (.argumentCount style (argumentCountText name arity variadic given))
  | .factorial error => .problem (.logic style (factorialText error))
  | .notBinary op => .problem (.wrongOperator style op "binary")
  | .notUnary op => .problem (.wrongOperator style op "unary")
  | .tooDeep => .tooDeep
  | .fault f => .fault f

/-- The failure of an evaluation: too many levels are a problem of the expression. -/
def ofEvaluation (style : Style) : EvalError → Failure
  | .tooDeep => .problem (.logic style "expression nested too deeply")
  | error => ofEvalError style error

end Failure

end Formula
