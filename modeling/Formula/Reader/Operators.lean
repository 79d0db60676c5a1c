import Formula.Expr.Basic
import Formula.Reader.Reply
set_option autoImplicit false

/-!
# Operands and binary operators

`climb` groups a chain of operands and binary operators by how tightly the operators bind
and to which side they group.  It reads an operator and its right operand, lets the
operators that follow take that operand for themselves as long as they have a claim to
it (`extend`), and then makes the two operands one.

Every call that is in progress takes a frame, and frames are limited.  A reader is therefore told
how many calls have been begun `around` what it reads: an expression is one, each climb in it one
more, and a factor another.  The loops are bounded by a count, which the number of tokens at hand
never exhausts.
-/

namespace Formula

namespace Reader

mutual

/-- Joins operators of at least precedence `least`, and their right operands, to `left`.  The climb
is itself the last of the calls around its operands. -/
def climb (operand : Nat → Reader Expr) (count around : Nat) (left : Expr) (least : Nat) :
    Reader Expr
  | [] => .ok left []
  | op :: rest =>
      if op.kind.isBinary && least ≤ op.kind.precedence then
        match count with
        | 0 => .fail .tooDeep (op :: rest)
        | count + 1 =>
            match operand around rest with
            | .fail refusal rest => .fail refusal rest
            | .ok right rest =>
            match extend operand count around op right rest with
            | .fail refusal rest => .fail refusal rest
            | .ok right rest => climb operand count around (.binary left right op) least rest
      else .ok left (op :: rest)

/-- Lets the operators that follow take the right operand of `op`, each time in a climb one call
further in. -/
def extend (operand : Nat → Reader Expr) (count around : Nat) (op : Token) (right : Expr) :
    Reader Expr
  | [] => .ok right []
  | next :: rest =>
      if next.kind.isBinary && next.kind.takesOperandOf op.kind then
        match count with
        | 0 => .fail .tooDeep (next :: rest)
        | count + 1 =>
            match climb operand count (around + 1) right next.kind.precedence (next :: rest) with
            | .fail refusal rest => .fail refusal rest
            | .ok right rest => extend operand count around op right rest
      else .ok right (next :: rest)

end

/-- A primary and a postfix operator after it, if there is one.  A prefix operator has no
place there. -/
def factorWith (primary : Reader Expr) : Reader Expr := fun ts =>
  match primary ts with
  | .fail refusal rest => .fail refusal rest
  | .ok operand [] => .ok operand []
  | .ok operand (op :: rest) =>
      if !op.kind.isUnary then .ok operand (op :: rest)
      else if op.kind.isRightAssociative then .ok (.unary operand op) rest
      else .fail (.unexpected op) (op :: rest)

/-- An expression: a factor, and the binary operators and factors after it.  Primaries are
read by a reader that is told how many calls there are around them: the expression and the
factor around the first one, the climb as well and the factor around another. -/
def expressionWith (primary : Nat → Reader Expr) : Reader Expr := fun ts =>
  match factorWith (primary 2) ts with
  | .fail refusal rest => .fail refusal rest
  | .ok left rest =>
      climb (fun around => factorWith (primary (around + 1))) rest.length 2 left 1 rest

end Reader

end Formula
