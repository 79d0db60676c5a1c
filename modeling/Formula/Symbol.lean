import Formula.Arithmetic
set_option autoImplicit false

/-!
# Symbols

A symbol is a constant or a function of numbers.  A table starts with the built-in
symbols; symbols are added to it but never replaced or removed, so a name that is bound
keeps its meaning.
-/

namespace Formula

/-- A function of numbers.  `arity` is the number of arguments, or the least number if the
function is variadic; it is for the caller to check it. -/
structure Function where
  arity : Int
  handler : List Double → Except Fault Double
  variadic : Bool := false

/-- What a name can stand for. -/
inductive Symbol where
  | constant (value : Double)
  | function (f : Function)

/-! ## Built-in symbols -/

namespace Handler

/-- The argument at a position. -/
def argument (args : List Double) (position : Nat) : Except Fault Double :=
  match args[position]? with
  | some x => .ok x
  | none => .error .missingArgument

/-- Applies a function to the first argument. -/
def first (f : Double → Except Fault Double) (args : List Double) : Except Fault Double :=
  match argument args 0 with
  | .error fault => .error fault
  | .ok x => f x

/-- Applies a function to the first two arguments. -/
def firstTwo (f : Double → Double → Except Fault Double) (args : List Double) :
    Except Fault Double :=
  match argument args 0 with
  | .error fault => .error fault
  | .ok x =>
      match argument args 1 with
      | .error fault => .error fault
      | .ok y => f x y

/-- Combines the arguments from left to right. -/
def fold (f : Double → Double → Double) : List Double → Except Fault Double
  | [] => .error .emptyFold
  | x :: rest => .ok (rest.foldl f x)

/-- The lesser of two numbers; the first one unless the second is less. -/
def lesser (x y : Double) : Double := if y.lt x then y else x

/-- The greater of two numbers; the first one unless the second is greater. -/
def greater (x y : Double) : Double := if x.lt y then y else x

end Handler

/-- The double nearest to the circle's ratio of circumference to diameter. -/
def circleRatio : Double := Double.ofDyadic false 7074237752028440 (-51)

/-- The symbols that every table starts with. -/
def builtins : List (String × Symbol) := [
  ("pi", .constant circleRatio),
  ("round", .function { arity := 1, handler := Handler.first Arithmetic.roundHalfAway }),
  ("ceil", .function { arity := 1, handler := Handler.first Arithmetic.ceil }),
  ("floor", .function { arity := 1, handler := Handler.first Arithmetic.floor }),
  ("sqrt", .function { arity := 1, handler := Handler.first Arithmetic.sqrt }),
  ("pow", .function { arity := 2, handler := Handler.firstTwo Arithmetic.power }),
  ("min", .function { arity := 2, handler := Handler.fold Handler.lesser, variadic := true }),
  ("max", .function { arity := 2, handler := Handler.fold Handler.greater, variadic := true })]

/-! ## Tables -/

/-- Why a table refuses a request. -/
inductive SymbolError where
  | notFound (name : String)
  | redeclared (name : String)
  deriving DecidableEq, Repr, Inhabited

/-- The symbols at hand, in the order in which they were added. -/
structure SymbolTable where
  entries : List (String × Symbol) := builtins

namespace SymbolTable

/-- Is the name bound? -/
def contains (table : SymbolTable) (name : String) : Bool :=
  table.entries.any fun entry => entry.1 == name

/-- The symbol of a name, if it is bound. -/
def get? (table : SymbolTable) (name : String) : Option Symbol :=
  (table.entries.find? fun entry => entry.1 == name).map Prod.snd

/-- The symbol of a name. -/
def lookup (table : SymbolTable) (name : String) : Except SymbolError Symbol :=
  match table.get? name with
  | some symbol => .ok symbol
  | none => .error (.notFound name)

/-- The table with one more symbol, whose name must not be bound. -/
def define (table : SymbolTable) (name : String) (symbol : Symbol) :
    Except SymbolError SymbolTable :=
  if table.contains name then .error (.redeclared name)
  else .ok ⟨table.entries ++ [(name, symbol)]⟩

/-- The number of symbols. -/
def size (table : SymbolTable) : Nat := table.entries.length

/-- The bound names in the order of their code points. -/
def names (table : SymbolTable) : List String :=
  (table.entries.map Prod.fst).mergeSort fun a b => !decide (b < a)

/-- The table as a text that lists its names. -/
def text (table : SymbolTable) : String :=
  "SymbolTable(" ++ ", ".intercalate table.names ++ ")"

/-! ## What a definition changes -/

theorem get?_define_self {table extended : SymbolTable} {name : String} {symbol : Symbol}
    (h : table.define name symbol = .ok extended) : extended.get? name = some symbol := by
  unfold define at h
  split at h
  · exact nomatch h
  · next absent =>
    cases h
    have unbound : (table.entries.find? fun entry => entry.1 == name) = none :=
      List.find?_eq_none.2 fun entry mem same => absent (List.any_eq_true.2 ⟨entry, mem, same⟩)
    simp [get?, List.find?_append, unbound]

theorem get?_define_of_ne {table extended : SymbolTable} {name other : String} {symbol : Symbol}
    (h : table.define name symbol = .ok extended) (ne : other ≠ name) :
    extended.get? other = table.get? other := by
  unfold define at h
  split at h
  · exact nomatch h
  · cases h
    have miss : (name == other) = false := by simpa using Ne.symm ne
    simp [get?, List.find?_append, miss]

end SymbolTable

end Formula
