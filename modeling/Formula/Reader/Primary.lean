import Formula.Double.Literal
import Formula.Reader.Operators
set_option autoImplicit false

/-!
# Primaries and whole expressions

A primary is a number, a name, a call, an expression between parentheses, or a primary
behind a negation sign.  The minus that opens a primary becomes a negation sign in the
same column.

Primaries are nested in one another.  Each takes one of the frames that a reader was given, and so
does each call between one primary and the next: of an expression, of the climbs in it, of a factor
and of a list of arguments.  A primary without a frame of its own refuses to read.  Only primaries
have to look: where another call begins, a primary has been read with more frames around it, or is
about to be read from the same tokens.
-/

namespace Formula

namespace Reader

/-! ## Single tokens -/

/-- Is the next token of the given kind? -/
def isNext (kind : Kind) (ts : List Token) : Bool :=
  match ts with
  | [] => false
  | t :: _ => t.kind == kind

/-- The next token, which has to be of the given kind. -/
def expect (kind : Kind) : Reader Token
  | [] => .fail (.expected (.kind kind)) []
  | t :: rest =>
      if t.kind = kind then .ok t rest else .fail (.expected (.kind kind)) (t :: rest)

/-- A number, whose spelling has to be a literal.  A number that is refused has been
taken. -/
def number : Reader Expr := fun ts =>
  match expect .number ts with
  | .fail refusal rest => .fail refusal rest
  | .ok token rest =>
      match token.lexeme with
      | none => .fail .blankNumber rest
      | some spelling =>
          match Double.ofLiteral? spelling with
          | none => .fail (.unexpected token) rest
          | some _ => .ok (.number token) rest

/-- The further members of a name: each is an identifier behind a period. -/
def furtherMembers : Reader (List Token)
  | [] => .ok [] []
  | [period] =>
      if period.kind = .period then .fail (.expected (.kind .identifier)) []
      else .ok [] [period]
  | period :: member :: rest =>
      if period.kind = .period then
        if member.kind = .identifier then
          match furtherMembers rest with
          | .fail refusal rest => .fail refusal rest
          | .ok members rest => .ok (member :: members) rest
        else .fail (.expected (.kind .identifier)) (member :: rest)
      else .ok [] (period :: member :: rest)

/-- A name: identifiers with periods between them. -/
def identifier : Reader Name := fun ts =>
  match expect .identifier ts with
  | .fail refusal rest => .fail refusal rest
  | .ok first rest => (furtherMembers rest).map fun others => ⟨first, others⟩

/-! ## Arguments -/

/-- The further arguments: each is an expression behind a comma.  The count bounds the
loop and is never exhausted if it is the number of tokens at hand. -/
def furtherArguments (expression : Reader Expr) (count : Nat) : Reader (List Expr)
  | [] => .ok [] []
  | comma :: rest =>
      if comma.kind = .comma then
        match count with
        | 0 => .fail .tooDeep (comma :: rest)
        | count + 1 =>
            match expression rest with
            | .fail refusal rest => .fail refusal rest
            | .ok argument rest =>
            match furtherArguments expression count rest with
            | .fail refusal rest => .fail refusal rest
            | .ok arguments rest => .ok (argument :: arguments) rest
      else .ok [] (comma :: rest)

/-- One argument or more, with commas between them. -/
def argumentsWith (expression : Reader Expr) : Reader (List Expr) := fun ts =>
  match expression ts with
  | .fail refusal rest => .fail refusal rest
  | .ok argument rest =>
      (furtherArguments expression rest.length rest).map fun others => argument :: others

/-- The arguments of a call behind its opening parenthesis, and the closing one. -/
def callWith (expression : Reader Expr) (name : Name) : Reader Expr := fun ts =>
  let arguments : Reply (List Expr) :=
    if isNext .closeParen ts then .ok [] ts else argumentsWith expression ts
  match arguments with
  | .fail refusal rest => .fail refusal rest
  | .ok arguments rest =>
      match expect .closeParen rest with
      | .fail refusal rest => .fail refusal rest
      | .ok _ rest => .ok (.call name arguments) rest

/-! ## Primaries -/

/-- A primary.  What is nested in it is read by `nested`, which is told how many calls there are
in between; a list of arguments is one more. -/
def primaryWith (nested : Nat → Reader Expr) : Reader Expr
  | [] => .fail (.expected .expression) []
  | t :: rest =>
      match t.kind with
      | .number => number (t :: rest)
      | .identifier =>
          match identifier (t :: rest) with
          | .fail refusal rest => .fail refusal rest
          | .ok name rest =>
              match rest with
              | [] => .ok (.identifier name) []
              | next :: inner =>
                  if next.kind = .openParen then
                    callWith (expressionWith fun around => nested (around + 1)) name inner
                  else .ok (.identifier name) (next :: inner)
      | .openParen =>
          match expressionWith nested rest with
          | .fail refusal rest => .fail refusal rest
          | .ok e rest =>
              match expect .closeParen rest with
              | .fail refusal rest => .fail refusal rest
              | .ok _ rest => .ok e rest
      | .minus => (nested 0 rest).map fun operand =>
          .unary operand { kind := .negate, start := t.start }
      | .negate => (nested 0 rest).map fun operand => .unary operand t
      | _ => .fail (.unexpected t) (t :: rest)

/-- A primary within the given number of frames. -/
def primary (frames : Nat) : Reader Expr := fun ts =>
  match frames with
  | 0 => .fail .tooDeep ts
  | frames + 1 => primaryWith (fun around => primary (frames - around)) ts
termination_by frames

theorem primary_zero (ts : List Token) : primary 0 ts = .fail .tooDeep ts := by
  rw [primary]

theorem primary_succ (frames : Nat) (ts : List Token) :
    primary (frames + 1) ts = primaryWith (fun around => primary (frames - around)) ts := by
  rw [primary]

/-- A factor within the given number of frames. -/
def factor (frames : Nat) : Reader Expr := factorWith (primary (frames - 1))

/-- An expression within the given number of frames. -/
def expression (frames : Nat) : Reader Expr :=
  expressionWith fun around => primary (frames - around)

/-- The arguments of a call within the given number of frames. -/
def argumentList (frames : Nat) : Reader (List Expr) := argumentsWith (expression (frames - 1))

/-- An expression that takes all the tokens. -/
def whole (frames : Nat) : Reader Expr := fun ts =>
  match expression frames ts with
  | .fail refusal rest => .fail refusal rest
  | .ok e [] => .ok e []
  | .ok _ (t :: rest) => .fail (.unexpected t) (t :: rest)

/-- How many frames there are for the calls that recurse, besides two in front of them and up to
nine for taking a token. -/
def frameLimit : Nat := Frames.available - 11

end Reader

/-- The expression that the tokens make up. -/
def Expr.ofTokens (tokens : List Token) : Reply Expr := Reader.whole Reader.frameLimit tokens

end Formula
