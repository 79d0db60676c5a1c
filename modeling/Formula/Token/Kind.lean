set_option autoImplicit false

/-!
# Kinds of token

What a token can be, and what is known of an operator from its kind alone: whether it
takes one operand or two, how tightly it binds, and to which side equal operators group.
The negation sign is written like the minus but is a kind of its own, which no text
produces: only a reader of expressions tells the two apart.
-/

namespace Formula

/-- The kinds of token. -/
inductive Kind where
  | number
  | identifier
  | plus
  | minus
  | multiply
  | divide
  | exponent
  | negate
  | factorial
  | comma
  | period
  | openParen
  | closeParen
  | invalid
  deriving DecidableEq, Repr, Inhabited

namespace Kind

/-- The text of a kind: its spelling, or a description in angle brackets for the kinds that
have many. -/
def text : Kind → String
  | .number => "<number>"
  | .identifier => "<identifier>"
  | .plus => "+"
  | .minus => "-"
  | .multiply => "*"
  | .divide => "/"
  | .exponent => "^"
  | .negate => "-"
  | .factorial => "!"
  | .comma => ","
  | .period => "."
  | .openParen => "("
  | .closeParen => ")"
  | .invalid => "<invalid>"

/-- Does it join two operands?  In `2 + -x` the plus does and the minus does not. -/
def isBinary : Kind → Bool
  | .plus | .minus | .multiply | .divide | .exponent => true
  | _ => false

/-- Does it belong to a single operand? -/
def isUnary : Kind → Bool
  | .negate | .factorial => true
  | _ => false

/-- Is it an operator at all? -/
def isOperator (kind : Kind) : Bool := kind.isBinary || kind.isUnary

/-- Does it group to the left, as in `(2 + 3) + 4`?  A unary operator that does stands
before its operand. -/
def isLeftAssociative : Kind → Bool
  | .plus | .minus | .multiply | .divide | .negate => true
  | _ => false

/-- Does it group to the right, as in `2 ^ (3 ^ 4)`?  A unary operator that does stands
after its operand. -/
def isRightAssociative : Kind → Bool
  | .exponent | .factorial => true
  | _ => false

/-- How tightly it binds; zero for what is no operator. -/
def precedence : Kind → Nat
  | .plus | .minus => 1
  | .multiply | .divide => 2
  | .exponent => 3
  | .negate | .factorial => 4
  | _ => 0

/-- The kind that a single character spells on its own. -/
def ofChar? : Char → Option Kind
  | '+' => some .plus
  | '-' => some .minus
  | '*' => some .multiply
  | '/' => some .divide
  | '^' => some .exponent
  | '!' => some .factorial
  | ',' => some .comma
  | '.' => some .period
  | '(' => some .openParen
  | ')' => some .closeParen
  | _ => none

/-- The kind that a text of one character spells. -/
def ofText? (text : String) : Option Kind :=
  match text.toList with
  | [c] => ofChar? c
  | _ => none

/-- Does `next` take the right operand of `op` for itself?  It does if it binds tighter, or
equally tight and groups to the right. -/
def takesOperandOf (next op : Kind) : Bool :=
  op.precedence < next.precedence
    || (next.isRightAssociative && next.precedence == op.precedence)

theorem binary_cases {kind : Kind} (h : kind.isBinary = true) :
    kind = .plus ∨ kind = .minus ∨ kind = .multiply ∨ kind = .divide ∨ kind = .exponent := by
  cases kind <;> simp_all [isBinary]

theorem unary_cases {kind : Kind} (h : kind.isUnary = true) :
    kind = .negate ∨ kind = .factorial := by
  cases kind <;> simp_all [isUnary]

theorem isOperator_iff (kind : Kind) : kind.isOperator = true ↔ 0 < kind.precedence := by
  cases kind <;> decide

theorem text_of_ofChar? {c : Char} {kind : Kind} (h : ofChar? c = some kind) :
    kind.text = String.singleton c := by
  unfold ofChar? at h
  split at h <;> simp_all [text] <;> subst h <;> rfl

end Kind

end Formula
