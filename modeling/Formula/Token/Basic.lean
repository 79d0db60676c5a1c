import Formula.Token.Kind
set_option autoImplicit false

/-!
# Tokens

A token is a kind together with its spelling and the column where it starts.  Kinds with
one spelling need none of their own.  The column serves only to point at the token:
tokens that differ in nothing else are alike.
-/

namespace Formula

/-- A token.  A start of -1 says that it was not cut from a text. -/
structure Token where
  kind : Kind
  lexeme : Option String := none
  start : Int := -1
  deriving DecidableEq, Repr, Inhabited

namespace Token

/-- The spelling, or the text of the kind. -/
def text (t : Token) : String := t.lexeme.getD t.kind.text

/-- Do the tokens agree but for their starts? -/
def alike (t u : Token) : Bool := t.kind == u.kind && t.lexeme == u.lexeme

theorem alike_iff (t u : Token) : t.alike u = true ↔ t.kind = u.kind ∧ t.lexeme = u.lexeme := by
  simp [alike]

end Token

end Formula
