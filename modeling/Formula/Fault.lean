import Formula.Text.Quoted
set_option autoImplicit false

/-!
# Faults

A fault is a failure that the rules of the language do not foresee: a template that
cannot be filled, a text that is no number where one was promised, a handler that is
given too few arguments.  It is known by the name of its kind and by a text, and both
are shown when it is reported.
-/

namespace Formula

/-- An unforeseen failure: the name of its kind, and its text. -/
structure Fault where
  name : String
  text : String
  deriving DecidableEq, Repr, Inhabited

namespace Fault

/-- A value that does not fit its use. -/
def value (text : String) : Fault := ⟨"ValueError", text⟩

/-- A position outside a sequence. -/
def index (text : String) : Fault := ⟨"IndexError", text⟩

/-- A name that is not in a mapping; the text shows it quoted. -/
def key (name : String) : Fault := ⟨"KeyError", Text.quoted name⟩

/-- An operand of the wrong sort. -/
def type (text : String) : Fault := ⟨"TypeError", text⟩

/-- A part that a value does not have. -/
def part (text : String) : Fault := ⟨"AttributeError", text⟩

/-- A result that is too great for its sort. -/
def overflow (text : String) : Fault := ⟨"OverflowError", text⟩

/-- A quotient by zero. -/
def divisionByZero : Fault := ⟨"ZeroDivisionError", "float division by zero"⟩

/-- A number for which a function of the library has no value. -/
def domain : Fault := value "math domain error"

/-- A value of a function of the library that is too great. -/
def range : Fault := overflow "math range error"

/-- A text that was to be a number and is not. -/
def notANumber (text : String) : Fault :=
  value ("could not convert string to float: " ++ Text.quoted text)

/-- A number that was promised and is missing. -/
def missingNumber : Fault :=
  type "float() argument must be a string or a real number, not 'NoneType'"

/-- An argument that a handler asks for and was not given. -/
def missingArgument : Fault := index "list index out of range"

/-- A definition without any text. -/
def missingDefinition : Fault := part "'list' object has no attribute 'partition'"

/-- A fold over no arguments at all. -/
def emptyFold : Fault := type "reduce() of empty iterable with no initial value"

/-! ## Texts that are too long

A text is made of at most `textLimit` characters, or of as many as another text has that is
already there, and a count of repetitions is a signed number of 64 bits. -/

/-- The greatest number of characters in one piece of text. -/
def textLimit : Nat := 0x8000000

/-- A text with more characters than can be held. -/
def outOfMemory : Fault := ⟨"MemoryError", ""⟩

/-- What is at fault with so many repetitions of a text of the given width, if anything, where
a text of `held` characters is already there; a negative count asks for none. -/
def ofRepetition? (held width : Nat) (count : Int) : Option Fault :=
  if 0 ≤ count ∧ width * count ≤ held then none
  else if count < -0x8000000000000000 ∨ 0x8000000000000000 ≤ count then
    some (overflow "cannot fit 'int' into an index-sized integer")
  else if 0x8000000000000000 ≤ width * count then
    some (overflow "repeated string is too long")
  else if textLimit < width * count then some outOfMemory
  else none

end Fault

end Formula
