import Formula.Fault
import Formula.Frames
import Formula.Token.Basic
set_option autoImplicit false

/-!
# Expressions

An expression is a number, a name, a binary or unary operation, or a call.  Its leaves
are tokens, and so are its operators, so that a message can point at them.  The checked
constructors `binary?`, `unary?` and `Name.ofMembers?` refuse operators of the wrong sort
and names without members; the type itself does not, since a tree may be given another
operator after it was built.
-/

namespace Formula

/-- A name such as `foo` or `foo.bar`: one member or more. -/
structure Name where
  first : Token
  others : List Token := []
  deriving DecidableEq, Repr, Inhabited

namespace Name

/-- All members, in order. -/
def members (name : Name) : List Token := name.first :: name.others

/-- The texts of the members with points between them. -/
def text (name : Name) : String := ".".intercalate (name.members.map Token.text)

/-- Do the names agree member by member? -/
def agree (same : Token → Token → Bool) (a b : Name) : Bool := a.members.isEqv b.members same

end Name

/-- An expression. -/
inductive Expr where
  | number (token : Token)
  | identifier (name : Name)
  | binary (lhs rhs : Expr) (op : Token)
  | unary (operand : Expr) (op : Token)
  | call (name : Name) (arguments : List Expr)
  deriving Repr, Inhabited

/-- Why a node cannot be built. -/
inductive NodeError where
  | notBinary (op : Token)
  | notUnary (op : Token)
  | noMembers
  deriving DecidableEq, Repr, Inhabited

/-- The fault that a refused node is reported as. -/
def NodeError.fault : NodeError → Fault
  | .notBinary op => .value ("'" ++ op.text ++ "' is not a binary operator")
  | .notUnary op => .value ("'" ++ op.text ++ "' is not a unary operator")
  | .noMembers => .value "identifier must have at least one member"

/-- The name with these members. -/
def Name.ofMembers? : List Token → Except NodeError Name
  | [] => .error .noMembers
  | first :: others => .ok ⟨first, others⟩

namespace Expr

/-! ## Checked construction -/

/-- A binary operation, if the operator is one of two operands. -/
def binary? (lhs rhs : Expr) (op : Token) : Except NodeError Expr :=
  if op.kind.isBinary then .ok (.binary lhs rhs op) else .error (.notBinary op)

/-- A unary operation, if the operator is one of a single operand. -/
def unary? (operand : Expr) (op : Token) : Except NodeError Expr :=
  if op.kind.isUnary then .ok (.unary operand op) else .error (.notUnary op)

/-- The expression with another operator at its root, which is not checked. -/
def withOperator (op : Token) : Expr → Expr
  | .binary lhs rhs _ => .binary lhs rhs op
  | .unary operand _ => .unary operand op
  | e => e

/-! ## Views -/

/-- The operands or arguments, in the order in which they are written. -/
def children : Expr → List Expr
  | .number _ => []
  | .identifier _ => []
  | .binary lhs rhs _ => [lhs, rhs]
  | .unary operand _ => [operand]
  | .call _ arguments => arguments

/-- A short text for the root alone. -/
def label : Expr → String
  | .number token => token.text
  | .identifier name => name.text
  | .binary _ _ op => op.text
  | .unary _ op => op.text
  | .call name _ => name.text ++ "()"

/-- The tokens at the root: the number, the members of the name, or the operator. -/
def rootTokens : Expr → List Token
  | .number token => [token]
  | .identifier name => name.members
  | .binary _ _ op => [op]
  | .unary _ op => [op]
  | .call name _ => name.members

mutual

/-- All subexpressions, each after its children. -/
def subexpressions : Expr → List Expr
  | .number token => [.number token]
  | .identifier name => [.identifier name]
  | .binary lhs rhs op => lhs.subexpressions ++ rhs.subexpressions ++ [.binary lhs rhs op]
  | .unary operand op => operand.subexpressions ++ [.unary operand op]
  | .call name arguments => subexpressionsOfAll arguments ++ [.call name arguments]

/-- All subexpressions of a list, one after the other. -/
def subexpressionsOfAll : List Expr → List Expr
  | [] => []
  | e :: rest => e.subexpressions ++ subexpressionsOfAll rest

end

mutual

/-- The number of nodes on the longest way from the root to a leaf. -/
def depth : Expr → Nat
  | .number _ => 1
  | .identifier _ => 1
  | .binary lhs rhs _ => max lhs.depth rhs.depth + 1
  | .unary operand _ => operand.depth + 1
  | .call _ arguments => depthOfAll arguments + 1

/-- The greatest depth in a list. -/
def depthOfAll : List Expr → Nat
  | [] => 0
  | e :: rest => max e.depth (depthOfAll rest)

end

/-! ## The limit on depth -/

/-- How many levels of nodes are entered where every node calls its children itself, before there is
no frame left for the texts of a label. -/
def depthLimit : Nat := Frames.available - 6

/-! ## Likeness -/

mutual

/-- Do the expressions have the same shape, and tokens that are the same in the given sense? -/
def agree (same : Token → Token → Bool) : Expr → Expr → Bool
  | .number t, .number u => same t u
  | .identifier a, .identifier b => a.agree same b
  | .binary l r op, .binary l' r' op' => l.agree same l' && r.agree same r' && same op op'
  | .unary e op, .unary e' op' => e.agree same e' && same op op'
  | .call a es, .call b es' => a.agree same b && agreeAll same es es'
  | _, _ => false

/-- Do the lists agree element by element? -/
def agreeAll (same : Token → Token → Bool) : List Expr → List Expr → Bool
  | [], [] => true
  | e :: es, e' :: es' => e.agree same e' && agreeAll same es es'
  | _, _ => false

end

/-- Do the expressions agree but for the starts of their tokens? -/
def alike (a b : Expr) : Bool := a.agree Token.alike b

mutual

/-- Compares the expressions from left to right up to the first difference, entering at most
`room` levels; none if these do not suffice. -/
def agreeWithin (same : Token → Token → Bool) : Nat → Expr → Expr → Option Bool
  | 0, _, _ => none
  | _ + 1, .number t, .number u => some (same t u)
  | _ + 1, .identifier a, .identifier b => some (a.agree same b)
  | room + 1, .binary l r op, .binary l' r' op' =>
      match agreeWithin same room l l' with
      | none => none
      | some false => some false
      | some true => (agreeWithin same room r r').map (· && same op op')
  | room + 1, .unary e op, .unary e' op' => (agreeWithin same room e e').map (· && same op op')
  | room + 1, .call a es, .call b es' =>
      if a.agree same b then agreeAllWithin same room es es' else some false
  | _ + 1, _, _ => some false

/-- Compares the lists element by element up to the first difference. -/
def agreeAllWithin (same : Token → Token → Bool) : Nat → List Expr → List Expr → Option Bool
  | _, [], [] => some true
  | room, e :: es, e' :: es' =>
      match agreeWithin same room e e' with
      | none => none
      | some false => some false
      | some true => agreeAllWithin same room es es'
  | _, _, _ => some false

end

/-- Do the expressions agree but for the starts of their tokens?  None if the limit on depth
is reached before the first difference. -/
def alike? (a b : Expr) : Option Bool := agreeWithin Token.alike depthLimit a b

mutual

theorem agree_of_agreeWithin {same : Token → Token → Bool} {room : Nat} {a b : Expr} {verdict : Bool}
    (h : agreeWithin same room a b = some verdict) : a.agree same b = verdict := by
  cases room with
  | zero => simp [agreeWithin] at h
  | succ room =>
      cases a with
      | number t => cases b <;> simp_all [agreeWithin, agree]
      | identifier n => cases b <;> simp_all [agreeWithin, agree]
      | binary l r op =>
          cases b with
          | binary l' r' op' =>
              rw [agreeWithin] at h
              split at h
              · exact nomatch h
              · next first =>
                  cases h
                  simp [agree, agree_of_agreeWithin first]
              · next first =>
                  obtain ⟨v, second, rfl⟩ := Option.map_eq_some_iff.1 h
                  simp [agree, agree_of_agreeWithin first, agree_of_agreeWithin second]
          | _ => simp_all [agreeWithin, agree]
      | unary e op =>
          cases b with
          | unary e' op' =>
              rw [agreeWithin] at h
              obtain ⟨v, first, rfl⟩ := Option.map_eq_some_iff.1 h
              simp [agree, agree_of_agreeWithin first]
          | _ => simp_all [agreeWithin, agree]
      | call n es =>
          cases b with
          | call n' es' =>
              rw [agreeWithin] at h
              split at h
              · next name => simp [agree, name, agreeAll_of_agreeAllWithin h]
              · next name => simp_all [agree]
          | _ => simp_all [agreeWithin, agree]

theorem agreeAll_of_agreeAllWithin {same : Token → Token → Bool} {room : Nat} {as bs : List Expr}
    {verdict : Bool} (h : agreeAllWithin same room as bs = some verdict) : agreeAll same as bs = verdict := by
  cases as with
  | nil => cases bs <;> simp_all [agreeAllWithin, agreeAll]
  | cons e es =>
      cases bs with
      | nil => simp_all [agreeAllWithin, agreeAll]
      | cons e' es' =>
          rw [agreeAllWithin] at h
          split at h
          · exact nomatch h
          · next first =>
              cases h
              simp [agreeAll, agree_of_agreeWithin first]
          · next first =>
              simp [agreeAll, agree_of_agreeWithin first, agreeAll_of_agreeAllWithin h]

end

/-! ## Equality -/

theorem name_agree_beq_iff (a b : Name) : (a.agree (fun t u => t == u) b) = true ↔ a = b := by
  cases a
  cases b
  simp [Name.agree, Name.members]

mutual

theorem agree_beq_iff (a b : Expr) : (a.agree (fun t u => t == u) b) = true ↔ a = b := by
  cases a with
  | number t => cases b <;> simp [agree]
  | identifier n => cases b <;> simp [agree, name_agree_beq_iff]
  | binary l r op => cases b <;> simp [agree, agree_beq_iff l, agree_beq_iff r, and_assoc]
  | unary e op => cases b <;> simp [agree, agree_beq_iff e]
  | call n es => cases b <;> simp [agree, name_agree_beq_iff, agreeAll_beq_iff es]

theorem agreeAll_beq_iff (as bs : List Expr) :
    (agreeAll (fun t u => t == u) as bs) = true ↔ as = bs := by
  cases as with
  | nil => cases bs <;> simp [agreeAll]
  | cons e es => cases bs <;> simp [agreeAll, agree_beq_iff e, agreeAll_beq_iff es]

end

instance : DecidableEq Expr := fun a b => decidable_of_iff _ (agree_beq_iff a b)

end Expr

end Formula
