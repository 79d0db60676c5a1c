import Formula.Double.Literal
import Formula.Expr.Basic
import Formula.Symbol
set_option autoImplicit false

/-!
# The value of an expression

`Expr.value` is the value against a table of symbols: operands from left to right, then
the operation.  An operation whose operator is of the wrong sort fails only after its
operands have their values; a call looks its function up and counts its arguments before
it evaluates them.
-/

namespace Formula

/-- What a name is looked up as. -/
inductive Sought where
  | constant
  | function
  deriving DecidableEq, Repr, Inhabited

/-- How messages call what was looked up. -/
def Sought.text : Sought → String
  | .constant => "identifier"
  | .function => "function"

/-- Why an expression has no value. -/
inductive EvalError where
  /-- The name is not bound (then `bound` is false), or not to what was looked up. -/
  | undefined (sought : Sought) (name : String) (bound : Bool)
  /-- A function with this arity was given another number of arguments. -/
  | argumentCount (name : String) (arity : Int) (variadic : Bool) (given : Nat)
  /-- There is no such factorial. -/
  | factorial (error : Double.FactorialError)
  /-- The operator of a binary operation is not binary. -/
  | notBinary (op : Token)
  /-- The operator of a unary operation is not unary. -/
  | notUnary (op : Token)
  /-- The expression is too deep. -/
  | tooDeep
  /-- A number without value, or a fault of a function. -/
  | fault (fault : Fault)
  deriving DecidableEq, Repr

namespace Expr

/-! ## Leaves and operations -/

/-- The value of a number. -/
def numberValue (token : Token) : Except EvalError Double :=
  match token.lexeme with
  | none => .error (.fault .missingNumber)
  | some spelling =>
      match Double.ofLiteral? spelling with
      | none => .error (.fault (.notANumber spelling))
      | some x => .ok x

/-- The value of a constant. -/
def constantValue (table : SymbolTable) (name : String) : Except EvalError Double :=
  match table.lookup name with
  | .error _ => .error (.undefined .constant name false)
  | .ok (.constant x) => .ok x
  | .ok (.function _) => .error (.undefined .constant name true)

/-- The function of a name. -/
def functionOf (table : SymbolTable) (name : String) : Except EvalError Function :=
  match table.lookup name with
  | .error _ => .error (.undefined .function name false)
  | .ok (.constant _) => .error (.undefined .function name true)
  | .ok (.function f) => .ok f

/-- Does the function take this many arguments? -/
def takes (f : Function) (given : Nat) : Bool :=
  if f.variadic then f.arity ≤ given else given == f.arity

/-- The function of a name, for a call with this many arguments. -/
def callee (table : SymbolTable) (name : String) (given : Nat) : Except EvalError Function :=
  match functionOf table name with
  | .error error => .error error
  | .ok f =>
      if takes f given then .ok f
      else .error (.argumentCount name f.arity f.variadic given)

/-- The value that guarded arithmetic gives. -/
def ofArithmetic : Except Fault Double → Except EvalError Double
  | .ok x => .ok x
  | .error fault => .error (.fault fault)

/-- The value of a binary operation. -/
def applyBinary (op : Token) (x y : Double) : Except EvalError Double :=
  match op.kind with
  | .plus => .ok (x.add y)
  | .minus => .ok (x.sub y)
  | .multiply => .ok (x.mul y)
  | .divide => ofArithmetic (Arithmetic.divide x y)
  | .exponent => ofArithmetic (Arithmetic.power x y)
  | _ => .error (.notBinary op)

/-- The value of a unary operation. -/
def applyUnary (op : Token) (x : Double) : Except EvalError Double :=
  match op.kind with
  | .negate => .ok x.neg
  | .factorial =>
      match x.factorialError? with
      | some error => .error (.factorial error)
      | none => ofArithmetic (Arithmetic.factorial x)
  | _ => .error (.notUnary op)

/-- The value of a call. -/
def applyFunction (f : Function) (args : List Double) : Except EvalError Double :=
  ofArithmetic (f.handler args)

/-! ## Values -/

mutual

/-- The value of an expression, or the first error on the way to it. -/
def value (table : SymbolTable) : Expr → Except EvalError Double
  | .number token => numberValue token
  | .identifier name => constantValue table name.text
  | .binary lhs rhs op =>
      match lhs.value table with
      | .error error => .error error
      | .ok x =>
      match rhs.value table with
      | .error error => .error error
      | .ok y => applyBinary op x y
  | .unary operand op =>
      match operand.value table with
      | .error error => .error error
      | .ok x => applyUnary op x
  | .call name arguments =>
      match callee table name.text arguments.length with
      | .error error => .error error
      | .ok f =>
      match valuesOfAll table arguments with
      | .error error => .error error
      | .ok args => applyFunction f args

/-- The values of a list, from left to right. -/
def valuesOfAll (table : SymbolTable) : List Expr → Except EvalError (List Double)
  | [] => .ok []
  | e :: rest =>
      match e.value table with
      | .error error => .error error
      | .ok x =>
      match valuesOfAll table rest with
      | .error error => .error error
      | .ok xs => .ok (x :: xs)

end

end Expr

end Formula
