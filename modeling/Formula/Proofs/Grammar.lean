import Formula.Double.Literal
import Formula.Expr.Basic
set_option autoImplicit false

/-!
# The grammar of expressions

The grammar as a relation between lists of tokens and expressions, stratified by how tightly
operators bind.  It mentions no reader:

    sum     ::= sum ("+" | "-") product | product
    product ::= product ("*" | "/") power | power
    power   ::= factor "^" power | factor
    factor  ::= primary ["!"]
    primary ::= number | name ["(" [arguments] ")"] | "(" sum ")" | "-" primary
    name    ::= identifier {"." identifier}

A phrase stands for exactly the expression that is made of its tokens: parentheses leave
nothing behind, and a minus that opens a primary becomes a negation sign in the same column.
-/

namespace Formula.Grammar

/-- The kinds of phrase, from the loosest to the tightest. -/
inductive Nonterminal where
  | sum
  | product
  | power
  | factor
  | primary
  deriving DecidableEq, Repr, Inhabited

/-- How tightly a phrase is bound.  The first three ranks are the precedences of the operators
that make such phrases. -/
def Nonterminal.rank : Nonterminal → Nat
  | .sum => 1
  | .product => 2
  | .power => 3
  | .factor => 4
  | .primary => 5

/-! ## Names -/

/-- The further members of a name: each is an identifier behind a period. -/
inductive Members : List Token → List Token → Prop where
  | none : Members [] []
  | more {period member : Token} {ts members : List Token} (hperiod : period.kind = .period)
      (hmember : member.kind = .identifier) (others : Members ts members) :
      Members (period :: member :: ts) (member :: members)

/-- A name: identifiers with periods between them. -/
inductive Identifier : List Token → Name → Prop where
  | members {first : Token} {ts others : List Token} (hfirst : first.kind = .identifier)
      (further : Members ts others) : Identifier (first :: ts) ⟨first, others⟩

/-! ## Phrases -/

mutual

/-- `Phrase q ts e`: the tokens `ts` are a phrase of the kind `q` that stands for `e`. -/
inductive Phrase : Nonterminal → List Token → Expr → Prop where
  | addition {op : Token} {as bs : List Token} {a b : Expr} (lhs : Phrase .sum as a)
      (hop : op.kind = .plus ∨ op.kind = .minus) (rhs : Phrase .product bs b) :
      Phrase .sum (as ++ op :: bs) (.binary a b op)
  | ofProduct {ts : List Token} {e : Expr} (inner : Phrase .product ts e) : Phrase .sum ts e
  | multiplication {op : Token} {as bs : List Token} {a b : Expr} (lhs : Phrase .product as a)
      (hop : op.kind = .multiply ∨ op.kind = .divide) (rhs : Phrase .power bs b) :
      Phrase .product (as ++ op :: bs) (.binary a b op)
  | ofPower {ts : List Token} {e : Expr} (inner : Phrase .power ts e) : Phrase .product ts e
  | exponentiation {op : Token} {as bs : List Token} {a b : Expr} (lhs : Phrase .factor as a)
      (hop : op.kind = .exponent) (rhs : Phrase .power bs b) :
      Phrase .power (as ++ op :: bs) (.binary a b op)
  | ofFactor {ts : List Token} {e : Expr} (inner : Phrase .factor ts e) : Phrase .power ts e
  | factorial {op : Token} {ts : List Token} {e : Expr} (operand : Phrase .primary ts e)
      (hop : op.kind = .factorial) : Phrase .factor (ts ++ [op]) (.unary e op)
  | ofPrimary {ts : List Token} {e : Expr} (inner : Phrase .primary ts e) : Phrase .factor ts e
  /-- A number, whose spelling is a literal. -/
  | number {token : Token} {spelling : String} (hkind : token.kind = .number)
      (hlexeme : token.lexeme = some spelling)
      (hliteral : (Double.ofLiteral? spelling).isSome) : Phrase .primary [token] (.number token)
  | name {ts : List Token} {name : Name} (identifier : Identifier ts name) :
      Phrase .primary ts (.identifier name)
  | emptyCall {opening closing : Token} {ts : List Token} {name : Name}
      (identifier : Identifier ts name) (hopening : opening.kind = .openParen)
      (hclosing : closing.kind = .closeParen) :
      Phrase .primary (ts ++ [opening, closing]) (.call name [])
  | call {opening closing : Token} {ts us : List Token} {name : Name} {arguments : List Expr}
      (identifier : Identifier ts name) (hopening : opening.kind = .openParen)
      (inner : Arguments us arguments) (hclosing : closing.kind = .closeParen) :
      Phrase .primary (ts ++ opening :: us ++ [closing]) (.call name arguments)
  | group {opening closing : Token} {ts : List Token} {e : Expr}
      (hopening : opening.kind = .openParen) (inner : Phrase .sum ts e)
      (hclosing : closing.kind = .closeParen) : Phrase .primary (opening :: ts ++ [closing]) e
  /-- A minus that opens a primary is a negation sign. -/
  | minus {op : Token} {ts : List Token} {e : Expr} (hop : op.kind = .minus)
      (operand : Phrase .primary ts e) :
      Phrase .primary (op :: ts) (.unary e { kind := .negate, start := op.start })
  | negation {op : Token} {ts : List Token} {e : Expr} (hop : op.kind = .negate)
      (operand : Phrase .primary ts e) : Phrase .primary (op :: ts) (.unary e op)

/-- `Arguments ts es`: the tokens `ts` are expressions with commas between them, one at least. -/
inductive Arguments : List Token → List Expr → Prop where
  | one {ts : List Token} {e : Expr} (argument : Phrase .sum ts e) : Arguments ts [e]
  | more {comma : Token} {ts us : List Token} {e : Expr} {es : List Expr}
      (argument : Phrase .sum ts e) (hcomma : comma.kind = .comma) (others : Arguments us es) :
      Arguments (ts ++ comma :: us) (e :: es)

end

/-! ## Operators

The three rules of binary operators are one rule, read off three tables. -/

/-- The kind of phrase that a binary operator makes. -/
def made : Kind → Nonterminal
  | .plus | .minus => .sum
  | .multiply | .divide => .product
  | _ => .power

/-- The kind of phrase to the left of a binary operator. -/
def leftOf : Kind → Nonterminal
  | .plus | .minus => .sum
  | .multiply | .divide => .product
  | _ => .factor

/-- The kind of phrase to the right of a binary operator. -/
def rightOf : Kind → Nonterminal
  | .plus | .minus => .product
  | _ => .power

theorem made_rank {kind : Kind} (h : kind.isBinary = true) : (made kind).rank = kind.precedence := by
  rcases Kind.binary_cases h with rfl | rfl | rfl | rfl | rfl <;> rfl

theorem rank_made_le_leftOf (kind : Kind) : (made kind).rank ≤ (leftOf kind).rank := by
  cases kind <;> decide

theorem rank_made_le_rightOf (kind : Kind) : (made kind).rank ≤ (rightOf kind).rank := by
  cases kind <;> decide

theorem rank_leftOf_le (kind : Kind) : (leftOf kind).rank ≤ Nonterminal.factor.rank := by
  cases kind <;> decide

theorem rank_rightOf_le (kind : Kind) : (rightOf kind).rank ≤ Nonterminal.factor.rank := by
  cases kind <;> decide

/-- Two operands and a binary operator between them are a phrase. -/
theorem Phrase.join {op : Token} {kind : Kind} {as bs : List Token} {a b : Expr}
    (hop : op.kind = kind) (h : kind.isBinary = true) (lhs : Phrase (leftOf kind) as a)
    (rhs : Phrase (rightOf kind) bs b) : Phrase (made kind) (as ++ op :: bs) (.binary a b op) := by
  rcases Kind.binary_cases h with rfl | rfl | rfl | rfl | rfl
  · exact .addition lhs (Or.inl hop) rhs
  · exact .addition lhs (Or.inr hop) rhs
  · exact .multiplication lhs (Or.inl hop) rhs
  · exact .multiplication lhs (Or.inr hop) rhs
  · exact .exponentiation lhs hop rhs

/-- A phrase is also one of any kind that is bound less tightly. -/
theorem Phrase.loosen {p q : Nonterminal} {ts : List Token} {e : Expr} (h : Phrase p ts e)
    (le : q.rank ≤ p.rank) : Phrase q ts e := by
  have toFactor (h : Phrase .primary ts e) : Phrase .factor ts e := .ofPrimary h
  have toPower (h : Phrase .factor ts e) : Phrase .power ts e := .ofFactor h
  have toProduct (h : Phrase .power ts e) : Phrase .product ts e := .ofPower h
  have toSum (h : Phrase .product ts e) : Phrase .sum ts e := .ofProduct h
  cases p <;> cases q <;>
    first
      | exact absurd le (by decide)
      | simp_all

/-- Induction over the operators of a phrase, down to its factors.  The three rules of binary
operators are one case. -/
theorem Phrase.operator_induction {motive : Nonterminal → List Token → Expr → Prop}
    (factor : ∀ {ts e}, Phrase .factor ts e → motive .factor ts e)
    (loosen : ∀ {p q ts e}, q.rank ≤ p.rank → motive p ts e → motive q ts e)
    (join : ∀ {op : Token} {kind as bs a b}, op.kind = kind → kind.isBinary = true →
      Phrase (leftOf kind) as a → motive (leftOf kind) as a →
      Phrase (rightOf kind) bs b → motive (rightOf kind) bs b →
      motive (made kind) (as ++ op :: bs) (.binary a b op))
    {q : Nonterminal} {ts : List Token} {e : Expr} :
    Phrase q ts e → q ≠ .primary → motive q ts e
  | .addition lhs (Or.inl hop) rhs, _ =>
      join hop rfl lhs (lhs.operator_induction factor loosen join (by decide))
        rhs (rhs.operator_induction factor loosen join (by decide))
  | .addition lhs (Or.inr hop) rhs, _ =>
      join hop rfl lhs (lhs.operator_induction factor loosen join (by decide))
        rhs (rhs.operator_induction factor loosen join (by decide))
  | .multiplication lhs (Or.inl hop) rhs, _ =>
      join hop rfl lhs (lhs.operator_induction factor loosen join (by decide))
        rhs (rhs.operator_induction factor loosen join (by decide))
  | .multiplication lhs (Or.inr hop) rhs, _ =>
      join hop rfl lhs (lhs.operator_induction factor loosen join (by decide))
        rhs (rhs.operator_induction factor loosen join (by decide))
  | .exponentiation lhs hop rhs, _ =>
      join hop rfl lhs (lhs.operator_induction factor loosen join (by decide))
        rhs (rhs.operator_induction factor loosen join (by decide))
  | .ofProduct h, _ =>
      loosen (p := .product) (by decide) (h.operator_induction factor loosen join (by decide))
  | .ofPower h, _ =>
      loosen (p := .power) (by decide) (h.operator_induction factor loosen join (by decide))
  | .ofFactor h, _ =>
      loosen (p := .factor) (by decide) (h.operator_induction factor loosen join (by decide))
  | .factorial h hop, _ => factor (.factorial h hop)
  | .ofPrimary h, _ => factor (.ofPrimary h)
  | .number _ _ _, primary | .name _, primary | .emptyCall _ _ _, primary
  | .call _ _ _ _, primary | .group _ _ _, primary | .minus _ _, primary
  | .negation _ _, primary => absurd rfl primary

end Formula.Grammar
