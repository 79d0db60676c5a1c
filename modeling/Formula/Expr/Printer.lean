import Formula.Expr.Basic
set_option autoImplicit false

/-!
# The canonical text of an expression

Binary operators stand between single blanks, prefix and postfix operators next to their
operand, arguments between parentheses with a comma and a blank between them.  Grouping
parentheses are not written: the text shows the tokens of the tree and not its shape.

`render` is the canonical text.  A `Printer` is the running form: it appends text piece
by piece, and stops with what it has when the expression is deeper than the limit.
-/

namespace Formula

namespace Expr

mutual

/-- The canonical text. -/
def render : Expr → String
  | .number token => token.text
  | .identifier name => name.text
  | .binary lhs rhs op => lhs.render ++ (" " ++ op.kind.text ++ " ") ++ rhs.render
  | .unary operand op =>
      if op.kind.isLeftAssociative then op.text ++ operand.render
      else operand.render ++ op.text
  | .call name arguments => name.text ++ "(" ++ renderAll arguments ++ ")"

/-- The texts of a list with separators between them. -/
def renderAll : List Expr → String
  | [] => ""
  | [e] => e.render
  | e :: rest => e.render ++ ", " ++ renderAll rest

end

end Expr

/-- A printer: the text written so far, and whether it had to stop. -/
structure Printer where
  output : String := ""
  stopped : Bool := false
  deriving DecidableEq, Repr, Inhabited

namespace Printer

/-- Appends a text, unless the printer has stopped. -/
def write (text : String) (p : Printer) : Printer :=
  if p.stopped then p else { p with output := p.output ++ text }

/-- Stops the printer. -/
def stop (p : Printer) : Printer := { p with stopped := true }

mutual

/-- Prints an expression of which `room` levels may be entered. -/
def visit (p : Printer) : Nat → Expr → Printer
  | 0, _ => p.stop
  | _ + 1, .number token => p.write token.text
  | _ + 1, .identifier name => p.write name.text
  | room + 1, .binary lhs rhs op =>
      ((p.visit room lhs).write (" " ++ op.kind.text ++ " ")).visit room rhs
  | room + 1, .unary operand op =>
      if op.kind.isLeftAssociative then (p.write op.text).visit room operand
      else (p.visit room operand).write op.text
  | room + 1, .call name arguments =>
      (((p.write (name.text ++ "(")).visitAll room arguments).write ")")

/-- Prints the expressions of a list with separators between them. -/
def visitAll (p : Printer) : Nat → List Expr → Printer
  | _, [] => p
  | room, [e] => p.visit room e
  | room, e :: rest => ((p.visit room e).write ", ").visitAll room rest

end

/-- How many levels of nodes are entered: two calls for each, one that the node answers and one
that it makes in return, and at the end four for the text of an operator. -/
def depthLimit : Nat := (Frames.available - 4) / 2

/-- Prints an expression, of any depth up to the limit. -/
def accept (p : Printer) (e : Expr) : Printer :=
  { p with stopped := false }.visit depthLimit e

end Printer

namespace Expr

/-- The canonical text of an expression that is not deeper than the limit. -/
def render? (e : Expr) : Option String :=
  let p := Printer.accept {} e
  if p.stopped then none else some p.output

end Expr

end Formula
