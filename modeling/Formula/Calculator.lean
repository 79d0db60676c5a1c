import Formula.Expr.Value
set_option autoImplicit false

/-!
# The calculator

A calculator walks over an expression and keeps the value of the node it completed last.
The value of an operand is what the calculator shows when the operand is done; after an
error it shows the last value before it, or what it showed at the start.  It enters a
limited number of levels.
-/

namespace Formula

/-- A walk of the calculator: its result or its error, and what the calculator shows. -/
inductive Calculation (α : Type) where
  | done (result : α) (output : Double)
  | failed (error : EvalError) (output : Double)

namespace Calculation

/-- What the calculator shows after the walk. -/
def output {α : Type} : Calculation α → Double
  | .done _ output => output
  | .failed _ output => output

end Calculation

/-- A calculator: its symbols, and the value it shows. -/
structure Calculator where
  table : SymbolTable
  output : Double := Double.zero false

namespace Calculator

/-- Shows the value of a node, or keeps what was shown if it has none. -/
def complete (shown : Double) : Except EvalError Double → Calculation Unit
  | .ok x => .done () x
  | .error error => .failed error shown

mutual

/-- Walks over an expression, of which `room` levels may be entered. -/
def visit (table : SymbolTable) (shown : Double) : Nat → Expr → Calculation Unit
  | 0, _ => .failed .tooDeep shown
  | _ + 1, .number token => complete shown (Expr.numberValue token)
  | _ + 1, .identifier name => complete shown (Expr.constantValue table name.text)
  | room + 1, .binary lhs rhs op =>
      match visit table shown room lhs with
      | .failed error shown => .failed error shown
      | .done () x =>
      match visit table x room rhs with
      | .failed error shown => .failed error shown
      | .done () y => complete y (Expr.applyBinary op x y)
  | room + 1, .unary operand op =>
      match visit table shown room operand with
      | .failed error shown => .failed error shown
      | .done () x => complete x (Expr.applyUnary op x)
  | room + 1, .call name arguments =>
      match Expr.callee table name.text arguments.length with
      | .error error => .failed error shown
      | .ok f =>
      match visitAll table shown room arguments with
      | .failed error shown => .failed error shown
      | .done args shown => complete shown (Expr.applyFunction f args)

/-- Walks over the expressions of a list and collects what is shown after each. -/
def visitAll (table : SymbolTable) (shown : Double) : Nat → List Expr → Calculation (List Double)
  | _, [] => .done [] shown
  | room, e :: rest =>
      match visit table shown room e with
      | .failed error shown => .failed error shown
      | .done () x =>
      match visitAll table x room rest with
      | .failed error shown => .failed error shown
      | .done xs shown => .done (x :: xs) shown

end

/-- How many levels of nodes are entered: two calls for each, one that the node answers and one
that it makes in return.  A value at the deepest level takes no further call. -/
def depthLimit : Nat := Frames.available / 2

/-- Walks over an expression of any depth up to the limit. -/
def accept (c : Calculator) (e : Expr) : Calculation Unit :=
  visit c.table c.output depthLimit e

end Calculator

/-- The value of an expression of any depth up to the limit. -/
def Expr.evaluate (table : SymbolTable) (e : Expr) : Except EvalError Double :=
  match Calculator.accept { table } e with
  | .done () x => .ok x
  | .failed error _ => .error error

end Formula
