import Formula.Token.Basic
set_option autoImplicit false

/-!
# Replies

A reader takes tokens from the front of a list.  Its reply is the phrase it read or the
reason why it could not, and in both cases the tokens it did not take: after a failure
these begin with the token at which reading stopped.
-/

namespace Formula

/-- What was expected where it was not found. -/
inductive Expectation where
  | expression
  | kind (kind : Kind)
  deriving DecidableEq, Repr, Inhabited

/-- The text of what was expected. -/
def Expectation.text : Expectation → String
  | .expression => "expression"
  | .kind k => k.text

/-- Why a phrase cannot be read. -/
inductive Refusal where
  /-- The first token that was not taken is not what has to stand there. -/
  | expected (what : Expectation)
  /-- A token that has no place here. -/
  | unexpected (token : Token)
  /-- A number token without a spelling. -/
  | blankNumber
  /-- The phrase is nested more deeply than allowed. -/
  | tooDeep
  deriving DecidableEq, Repr, Inhabited

/-- The reply of a reader, with the tokens that it did not take. -/
inductive Reply (α : Type) where
  | ok (value : α) (rest : List Token)
  | fail (refusal : Refusal) (rest : List Token)
  deriving DecidableEq, Repr

instance {α : Type} : Inhabited (Reply α) := ⟨.fail .tooDeep []⟩

/-- A reader of phrases. -/
abbrev Reader (α : Type) : Type := List Token → Reply α

namespace Reply

/-- The tokens that were not taken. -/
def rest {α : Type} : Reply α → List Token
  | .ok _ rest => rest
  | .fail _ rest => rest

/-- The phrase, if it was read. -/
def value? {α : Type} : Reply α → Option α
  | .ok value _ => some value
  | .fail _ _ => none

/-- The reply with another form of the phrase. -/
def map {α β : Type} (f : α → β) : Reply α → Reply β
  | .ok value rest => .ok (f value) rest
  | .fail refusal rest => .fail refusal rest

end Reply

end Formula
