import Formula.Proofs.Evaluation
set_option autoImplicit false

/-!
# Rules of evaluation

What an expression evaluates to, as a relation.  `Evaluates table e shown result` says two things
about an evaluation of `e`: it gives `result`, a value or the first error; and on the way to it the
nodes with the values `shown` were completed, in this order.  Operands are evaluated before their
operation, from left to right, and nothing is evaluated behind an error.

`Expr.value` computes what the rules say: they give every expression one result, which is its value
(`exists_evaluates`, `Evaluates.result_eq`).
-/

namespace Formula

/-- The operation of a binary operator on two numbers; other kinds have none. -/
def Kind.operation? : Kind → Option (Double → Double → Double)
  | .plus => some Double.add
  | .minus => some Double.sub
  | .multiply => some Double.mul
  | .divide => some Double.div
  | .exponent => some Double.pow
  | _ => none

/-- The function is not to be called with so many arguments: a variadic one takes its arity at
least, another one its arity exactly. -/
def Function.Refuses (f : Function) (given : Nat) : Prop :=
  if f.variadic then (given : Int) < f.arity else (given : Int) ≠ f.arity

theorem Function.refuses_iff (f : Function) (given : Nat) :
    f.Refuses given ↔ Expr.takes f given = false := by
  unfold Refuses Expr.takes
  split <;> simp

namespace Expr

mutual

/-- The evaluation of an expression. -/
inductive Evaluates (table : SymbolTable) :
    Expr → List Double → Except EvalError Double → Prop where
  /-- A number has the value that its spelling is a literal of. -/
  | number {t : Token} {spelling : String} {x : Double} (hlexeme : t.lexeme = some spelling)
      (hliteral : Double.ofLiteral? spelling = some x) : Evaluates table (.number t) [x] (.ok x)
  | noSpelling {t : Token} (hlexeme : t.lexeme = none) :
      Evaluates table (.number t) [] (.error (.fault .missingNumber))
  | noLiteral {t : Token} {spelling : String} (hlexeme : t.lexeme = some spelling)
      (hliteral : Double.ofLiteral? spelling = none) :
      Evaluates table (.number t) [] (.error (.fault (.notANumber spelling)))
  | constant {name : Name} {x : Double} (hget : table.get? name.text = some (.constant x)) :
      Evaluates table (.identifier name) [x] (.ok x)
  /-- A name that is no constant is undefined as one, bound or not. -/
  | noConstant {name : Name} (hget : ∀ x, table.get? name.text ≠ some (.constant x)) :
      Evaluates table (.identifier name) []
        (.error (.undefined .constant name.text (table.get? name.text).isSome))
  | leftError {lhs rhs : Expr} {op : Token} {shown : List Double} {error : EvalError}
      (left : Evaluates table lhs shown (.error error)) :
      Evaluates table (.binary lhs rhs op) shown (.error error)
  | rightError {lhs rhs : Expr} {op : Token} {shown shown' : List Double} {x : Double}
      {error : EvalError} (left : Evaluates table lhs shown (.ok x))
      (right : Evaluates table rhs shown' (.error error)) :
      Evaluates table (.binary lhs rhs op) (shown ++ shown') (.error error)
  | binary {lhs rhs : Expr} {op : Token} {shown shown' : List Double} {x y : Double}
      {f : Double → Double → Double} (left : Evaluates table lhs shown (.ok x))
      (right : Evaluates table rhs shown' (.ok y)) (hop : op.kind.operation? = some f) :
      Evaluates table (.binary lhs rhs op) (shown ++ shown' ++ [f x y]) (.ok (f x y))
  /-- Only behind its operands an operator is found not to be binary. -/
  | notBinary {lhs rhs : Expr} {op : Token} {shown shown' : List Double} {x y : Double}
      (left : Evaluates table lhs shown (.ok x)) (right : Evaluates table rhs shown' (.ok y))
      (hop : op.kind.operation? = none) :
      Evaluates table (.binary lhs rhs op) (shown ++ shown') (.error (.notBinary op))
  | operandError {operand : Expr} {op : Token} {shown : List Double} {error : EvalError}
      (inner : Evaluates table operand shown (.error error)) :
      Evaluates table (.unary operand op) shown (.error error)
  | negation {operand : Expr} {op : Token} {shown : List Double} {x : Double}
      (inner : Evaluates table operand shown (.ok x)) (hop : op.kind = .negate) :
      Evaluates table (.unary operand op) (shown ++ [x.neg]) (.ok x.neg)
  | factorial {operand : Expr} {op : Token} {shown : List Double} {x y : Double}
      (inner : Evaluates table operand shown (.ok x)) (hop : op.kind = .factorial)
      (hvalue : x.factorial = .ok y) :
      Evaluates table (.unary operand op) (shown ++ [y]) (.ok y)
  | noFactorial {operand : Expr} {op : Token} {shown : List Double} {x : Double}
      {error : Double.FactorialError} (inner : Evaluates table operand shown (.ok x))
      (hop : op.kind = .factorial) (hvalue : x.factorial = .error error) :
      Evaluates table (.unary operand op) shown (.error (.factorial error))
  | notUnary {operand : Expr} {op : Token} {shown : List Double} {x : Double}
      (inner : Evaluates table operand shown (.ok x)) (hop : op.kind.isUnary = false) :
      Evaluates table (.unary operand op) shown (.error (.notUnary op))
  /-- A name that is no function is undefined as one, bound or not. -/
  | noFunction {name : Name} {arguments : List Expr}
      (hget : ∀ f, table.get? name.text ≠ some (.function f)) :
      Evaluates table (.call name arguments) []
        (.error (.undefined .function name.text (table.get? name.text).isSome))
  /-- The arguments are counted before any of them is evaluated. -/
  | argumentCount {name : Name} {arguments : List Expr} {f : Function}
      (hget : table.get? name.text = some (.function f)) (hcount : f.Refuses arguments.length) :
      Evaluates table (.call name arguments) []
        (.error (.argumentCount name.text f.arity f.variadic arguments.length))
  | argumentError {name : Name} {arguments : List Expr} {f : Function} {shown : List Double}
      {error : EvalError} (hget : table.get? name.text = some (.function f))
      (hcount : ¬ f.Refuses arguments.length)
      (inner : EvaluatesAll table arguments shown (.error error)) :
      Evaluates table (.call name arguments) shown (.error error)
  | call {name : Name} {arguments : List Expr} {f : Function} {shown xs : List Double} {y : Double}
      (hget : table.get? name.text = some (.function f)) (hcount : ¬ f.Refuses arguments.length)
      (inner : EvaluatesAll table arguments shown (.ok xs)) (hvalue : f.handler xs = .ok y) :
      Evaluates table (.call name arguments) (shown ++ [y]) (.ok y)
  | callFault {name : Name} {arguments : List Expr} {f : Function} {shown xs : List Double}
      {fault : Fault} (hget : table.get? name.text = some (.function f))
      (hcount : ¬ f.Refuses arguments.length) (inner : EvaluatesAll table arguments shown (.ok xs))
      (hvalue : f.handler xs = .error fault) :
      Evaluates table (.call name arguments) shown (.error (.fault fault))

/-- The evaluation of a list of expressions, from left to right. -/
inductive EvaluatesAll (table : SymbolTable) :
    List Expr → List Double → Except EvalError (List Double) → Prop where
  | nil : EvaluatesAll table [] [] (.ok [])
  | firstError {e : Expr} {rest : List Expr} {shown : List Double} {error : EvalError}
      (first : Evaluates table e shown (.error error)) :
      EvaluatesAll table (e :: rest) shown (.error error)
  | othersError {e : Expr} {rest : List Expr} {shown shown' : List Double} {x : Double}
      {error : EvalError} (first : Evaluates table e shown (.ok x))
      (others : EvaluatesAll table rest shown' (.error error)) :
      EvaluatesAll table (e :: rest) (shown ++ shown') (.error error)
  | cons {e : Expr} {rest : List Expr} {shown shown' xs : List Double} {x : Double}
      (first : Evaluates table e shown (.ok x)) (others : EvaluatesAll table rest shown' (.ok xs)) :
      EvaluatesAll table (e :: rest) (shown ++ shown') (.ok (x :: xs))

end

variable {table : SymbolTable}

/-- The node that is completed last is the expression itself. -/
theorem Evaluates.getLast {e : Expr} {shown : List Double} {x : Double}
    (h : Evaluates table e shown (.ok x)) : shown.getLast? = some x := by
  cases h with
  | number _ _ | constant _ => rfl
  | binary _ _ _ | negation _ _ | factorial _ _ _ | call _ _ _ _ => exact List.getLast?_concat

/-! ## Operations -/

theorem applyBinary_of_operation {op : Token} {f : Double → Double → Double}
    (h : op.kind.operation? = some f) (x y : Double) : applyBinary op x y = .ok (f x y) := by
  obtain ⟨kind, lexeme, start⟩ := op
  cases kind with
  | plus | minus | multiply =>
      cases h
      rfl
  | divide =>
      cases h
      exact congrArg ofArithmetic (Arithmetic.divide_eq x y)
  | exponent =>
      cases h
      exact congrArg ofArithmetic (Arithmetic.power_eq x y)
  | _ => cases h

theorem applyBinary_of_none {op : Token} (h : op.kind.operation? = none) (x y : Double) :
    applyBinary op x y = .error (.notBinary op) := by
  obtain ⟨kind, lexeme, start⟩ := op
  cases kind with
  | plus | minus | multiply | divide | exponent => cases h
  | _ => rfl

theorem applyUnary_negation {op : Token} (h : op.kind = .negate) (x : Double) :
    applyUnary op x = .ok x.neg := by
  rw [applyUnary, h]

theorem applyUnary_factorial {op : Token} (h : op.kind = .factorial) (x : Double) :
    applyUnary op x = match x.factorial with
      | .ok y => .ok y
      | .error error => .error (.factorial error) := by
  rw [applyUnary, h]
  dsimp only
  split
  · rename_i error hnone
    rw [Double.factorial, hnone]
  · rename_i hnone
    obtain ⟨y, hy, hvalue⟩ := Arithmetic.factorial_eq hnone
    rw [hy, hvalue, ofArithmetic]

theorem applyUnary_of_not_unary {op : Token} (h : op.kind.isUnary = false) (x : Double) :
    applyUnary op x = .error (.notUnary op) := by
  unfold applyUnary
  split
  · rename_i hop
    rw [hop] at h
    cases h
  · rename_i hop
    rw [hop] at h
    cases h
  · rfl

/-! ## Names -/

theorem constantValue_of_constant {name : String} {x : Double}
    (h : table.get? name = some (.constant x)) : constantValue table name = .ok x := by
  rw [constantValue, SymbolTable.lookup, h]

theorem constantValue_of_none {name : String} (h : ∀ x, table.get? name ≠ some (.constant x)) :
    constantValue table name = .error (.undefined .constant name (table.get? name).isSome) := by
  unfold constantValue SymbolTable.lookup
  cases hget : table.get? name with
  | none => rfl
  | some symbol =>
      cases symbol with
      | constant x => exact absurd hget (h x)
      | function f => rfl

theorem callee_of_none {name : String} (h : ∀ f, table.get? name ≠ some (.function f))
    (given : Nat) :
    callee table name given
      = .error (.undefined .function name (table.get? name).isSome) := by
  unfold callee functionOf SymbolTable.lookup
  cases hget : table.get? name with
  | none => rfl
  | some symbol =>
      cases symbol with
      | constant x => rfl
      | function f => exact absurd hget (h f)

theorem callee_of_function {name : String} {f : Function}
    (h : table.get? name = some (.function f)) (given : Nat) :
    callee table name given = if takes f given then .ok f
      else .error (.argumentCount name f.arity f.variadic given) := by
  rw [callee, functionOf, SymbolTable.lookup, h]

theorem callee_of_refuses {name : String} {f : Function} {given : Nat}
    (h : table.get? name = some (.function f)) (hcount : f.Refuses given) :
    callee table name given = .error (.argumentCount name f.arity f.variadic given) := by
  rw [callee_of_function h, (f.refuses_iff given).1 hcount, if_neg Bool.false_ne_true]

theorem callee_of_not_refuses {name : String} {f : Function} {given : Nat}
    (h : table.get? name = some (.function f)) (hcount : ¬ f.Refuses given) :
    callee table name given = .ok f := by
  rw [f.refuses_iff, Bool.not_eq_false] at hcount
  rw [callee_of_function h, if_pos hcount]

/-! ## The rules give the value and nothing else -/

mutual

/-- What an expression evaluates to is its value. -/
theorem Evaluates.result_eq : ∀ {e : Expr} {shown : List Double} {result : Except EvalError Double},
    Evaluates table e shown result → e.value table = result
  | _, _, _, .number hlexeme hliteral => by simp only [value, numberValue, hlexeme, hliteral]
  | _, _, _, .noSpelling hlexeme => by simp only [value, numberValue, hlexeme]
  | _, _, _, .noLiteral hlexeme hliteral => by simp only [value, numberValue, hlexeme, hliteral]
  | _, _, _, .constant hget => by rw [value, constantValue_of_constant hget]
  | _, _, _, .noConstant hget => by rw [value, constantValue_of_none hget]
  | _, _, _, .leftError left => by rw [value, left.result_eq]
  | _, _, _, .rightError left right => by simp only [value, left.result_eq, right.result_eq]
  | _, _, _, .binary left right hop => by
      simp only [value, left.result_eq, right.result_eq, applyBinary_of_operation hop]
  | _, _, _, .notBinary left right hop => by
      simp only [value, left.result_eq, right.result_eq, applyBinary_of_none hop]
  | _, _, _, .operandError inner => by rw [value, inner.result_eq]
  | _, _, _, .negation inner hop => by
      simp only [value, inner.result_eq, applyUnary_negation hop]
  | _, _, _, .factorial inner hop hvalue | _, _, _, .noFactorial inner hop hvalue => by
      simp only [value, inner.result_eq, applyUnary_factorial hop, hvalue]
  | _, _, _, .notUnary inner hop => by
      simp only [value, inner.result_eq, applyUnary_of_not_unary hop]
  | _, _, _, .noFunction hget => by rw [value, callee_of_none hget]
  | _, _, _, .argumentCount hget hcount => by rw [value, callee_of_refuses hget hcount]
  | _, _, _, .argumentError hget hcount inner => by
      simp only [value, callee_of_not_refuses hget hcount, inner.result_eq]
  | _, _, _, .call hget hcount inner hvalue | _, _, _, .callFault hget hcount inner hvalue => by
      simp only [value, callee_of_not_refuses hget hcount, inner.result_eq, applyFunction, hvalue,
        ofArithmetic]

theorem EvaluatesAll.result_eq : ∀ {es : List Expr} {shown : List Double}
    {result : Except EvalError (List Double)}, EvaluatesAll table es shown result →
      valuesOfAll table es = result
  | _, _, _, .nil => by rw [valuesOfAll]
  | _, _, _, .firstError first => by rw [valuesOfAll, first.result_eq]
  | _, _, _, .othersError first others | _, _, _, .cons first others => by
      simp only [valuesOfAll, first.result_eq, others.result_eq]

end

mutual

/-- Every expression evaluates to something. -/
theorem exists_evaluates : ∀ e : Expr, ∃ shown result, Evaluates table e shown result
  | .number t => by
      cases hlexeme : t.lexeme with
      | none => exact ⟨_, _, .noSpelling hlexeme⟩
      | some spelling =>
          cases hliteral : Double.ofLiteral? spelling with
          | none => exact ⟨_, _, .noLiteral hlexeme hliteral⟩
          | some x => exact ⟨_, _, .number hlexeme hliteral⟩
  | .identifier name => by
      by_cases hget : ∃ x, table.get? name.text = some (.constant x)
      · obtain ⟨x, hget⟩ := hget
        exact ⟨_, _, .constant hget⟩
      · exact ⟨_, _, .noConstant (not_exists.1 hget)⟩
  | .binary lhs rhs op => by
      obtain ⟨shown, result, left⟩ := exists_evaluates lhs
      cases result with
      | error error => exact ⟨_, _, .leftError left⟩
      | ok x =>
          obtain ⟨shown', result', right⟩ := exists_evaluates rhs
          cases result' with
          | error error => exact ⟨_, _, .rightError left right⟩
          | ok y =>
              cases hop : op.kind.operation? with
              | none => exact ⟨_, _, .notBinary left right hop⟩
              | some f => exact ⟨_, _, .binary left right hop⟩
  | .unary operand op => by
      obtain ⟨shown, result, inner⟩ := exists_evaluates operand
      cases result with
      | error error => exact ⟨_, _, .operandError inner⟩
      | ok x =>
          cases hunary : op.kind.isUnary with
          | false => exact ⟨_, _, .notUnary inner hunary⟩
          | true =>
              rcases Kind.unary_cases hunary with hop | hop
              · exact ⟨_, _, .negation inner hop⟩
              · cases hvalue : x.factorial with
                | error error => exact ⟨_, _, .noFactorial inner hop hvalue⟩
                | ok y => exact ⟨_, _, .factorial inner hop hvalue⟩
  | .call name arguments => by
      by_cases hget : ∃ f, table.get? name.text = some (.function f)
      · obtain ⟨f, hget⟩ := hget
        by_cases hcount : f.Refuses arguments.length
        · exact ⟨_, _, .argumentCount hget hcount⟩
        · obtain ⟨shown, result, inner⟩ := exists_evaluatesAll arguments
          cases result with
          | error error => exact ⟨_, _, .argumentError hget hcount inner⟩
          | ok xs =>
              cases hvalue : f.handler xs with
              | error fault => exact ⟨_, _, .callFault hget hcount inner hvalue⟩
              | ok y => exact ⟨_, _, .call hget hcount inner hvalue⟩
      · exact ⟨_, _, .noFunction (not_exists.1 hget)⟩

theorem exists_evaluatesAll : ∀ es : List Expr, ∃ shown result, EvaluatesAll table es shown result
  | [] => ⟨_, _, .nil⟩
  | e :: rest => by
      obtain ⟨shown, result, first⟩ := exists_evaluates e
      cases result with
      | error error => exact ⟨_, _, .firstError first⟩
      | ok x =>
          obtain ⟨shown', result', others⟩ := exists_evaluatesAll rest
          cases result' with
          | error error => exact ⟨_, _, .othersError first others⟩
          | ok xs => exact ⟨_, _, .cons first others⟩

end

/-! ## Undefined names -/

mutual

/-- A name that is reported as unbound is, and one that is reported as bound is bound. -/
theorem Evaluates.bound_eq {sought : Sought} {name : String} {bound : Bool} :
    ∀ {e : Expr} {shown : List Double} {result : Except EvalError Double},
      Evaluates table e shown result → result = .error (.undefined sought name bound) →
        bound = (table.get? name).isSome
  | _, _, _, .noConstant _, h | _, _, _, .noFunction _, h => by
      cases h
      rfl
  | _, _, _, .leftError inner, h | _, _, _, .rightError _ inner, h
  | _, _, _, .operandError inner, h => inner.bound_eq h
  | _, _, _, .argumentError _ _ inner, h => inner.bound_eq (congrArg Except.error (Except.error.inj h))
  | _, _, _, .number _ _, h | _, _, _, .noSpelling _, h | _, _, _, .noLiteral _ _, h
  | _, _, _, .constant _, h | _, _, _, .binary _ _ _, h | _, _, _, .notBinary _ _ _, h
  | _, _, _, .negation _ _, h | _, _, _, .factorial _ _ _, h | _, _, _, .noFactorial _ _ _, h
  | _, _, _, .notUnary _ _, h | _, _, _, .argumentCount _ _, h | _, _, _, .call _ _ _ _, h
  | _, _, _, .callFault _ _ _ _, h => nomatch h

theorem EvaluatesAll.bound_eq {sought : Sought} {name : String} {bound : Bool} :
    ∀ {es : List Expr} {shown : List Double} {result : Except EvalError (List Double)},
      EvaluatesAll table es shown result → result = .error (.undefined sought name bound) →
        bound = (table.get? name).isSome
  | _, _, _, .firstError first, h => first.bound_eq (congrArg Except.error (Except.error.inj h))
  | _, _, _, .othersError _ others, h => others.bound_eq h
  | _, _, _, .nil, h | _, _, _, .cons _ _, h => nomatch h

end

end Expr

end Formula
