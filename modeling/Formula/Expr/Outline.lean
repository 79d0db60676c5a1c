import Formula.Expr.Basic
set_option autoImplicit false

/-!
# The outline of an expression

An expression shown as an indented list: each node is its sort and its label, and its
children follow between brackets, one level further in and with commas between them.
-/

namespace Formula

namespace Expr

/-- The sort of a node as the outline names it. -/
def sort : Expr → String
  | .number _ => "NumberExpr"
  | .identifier _ => "IdentifierExpr"
  | .binary _ _ _ => "BinaryExpr"
  | .unary _ _ => "UnaryExpr"
  | .call _ _ => "FuncCallExpr"

/-- The blank before a line at the given level; none below level zero. -/
def indentation (level : Int) : String := String.ofList (List.replicate (4 * level.toNat) ' ')

/-- The line that opens a node. -/
def opening (level : Int) (e : Expr) : String :=
  indentation level ++ e.sort ++ "('" ++ e.label ++ "'"

/-- A node from its opening and the outlines of its children, if it has any. -/
def enclose (level : Int) (opening children : String) (isEmpty : Bool) : String :=
  if isEmpty then opening ++ ")"
  else opening ++ ", nodes=[" ++ children ++ "\n" ++ indentation level ++ "])"

mutual

/-- The outline at a level. -/
def outline (level : Int) : Expr → String
  | .number token => enclose level (opening level (.number token)) "" true
  | .identifier name => enclose level (opening level (.identifier name)) "" true
  | .binary lhs rhs op =>
      enclose level (opening level (.binary lhs rhs op))
        ("\n" ++ lhs.outline (level + 1) ++ ",\n" ++ rhs.outline (level + 1)) false
  | .unary operand op =>
      enclose level (opening level (.unary operand op))
        ("\n" ++ operand.outline (level + 1)) false
  | .call name arguments =>
      enclose level (opening level (.call name arguments))
        (outlines (level + 1) arguments) arguments.isEmpty

/-- The outlines of a list, each on a line of its own, with commas between them. -/
def outlines (level : Int) : List Expr → String
  | [] => ""
  | [e] => "\n" ++ e.outline level
  | e :: rest => "\n" ++ e.outline level ++ "," ++ outlines level rest

end

/-- Why an outline cannot be written. -/
inductive OutlineError where
  /-- The expression is too deep. -/
  | tooDeep
  /-- The blank before its first line is too long. -/
  | fault (fault : Fault)
  deriving DecidableEq, Repr

/-- The outline of an expression that is not deeper than the limit. -/
def outline? (level : Int) (e : Expr) : Except OutlineError String :=
  match Fault.ofRepetition? 0 4 level with
  | some fault => .error (.fault fault)
  | none => if e.depth ≤ depthLimit then .ok (e.outline level) else .error .tooDeep

end Expr

end Formula
