set_option autoImplicit false

/-!
# Families of values

A field of a template starts from a text, but it may ask for parts of the text, and for
parts of these.  Every value that can be met on the way belongs to a family.  The family
is what messages call the value; it says which operations the value has, and it is a
value itself, whose parts are its name, its manual and its descent.

All families descend from one.
-/

namespace Formula.Text.Template

/-- The families. -/
inductive Family where
  /-- Texts. -/
  | text
  /-- The family that all families descend from. -/
  | object
  /-- Families. -/
  | family
  /-- Rows of values. -/
  | row
  /-- Integers. -/
  | number
  /-- The family of the value that stands for none. -/
  | nothing
  /-- Operations of a family by themselves, under a name of their own. -/
  | operation
  /-- Operations of a family by themselves that the language calls for an operator. -/
  | slot
  /-- Operations together with the value that they work on. -/
  | boundOperation
  /-- The same for the operations behind operators. -/
  | boundSlot
  /-- What a family itself defines. -/
  | entries
  deriving DecidableEq, Repr, Inhabited

/-- How an operation is defined. -/
inductive Manner where
  /-- Under a name of its own. -/
  | named
  /-- Behind an operator. -/
  | slot
  /-- On the family rather than on its values. -/
  | onFamily
  deriving DecidableEq, Repr, Inhabited

/-- The measures of a family's values in memory. -/
structure Measures where
  basic : Nat
  perItem : Nat
  flags : Nat
  entriesOffset : Nat
  referencesOffset : Nat
  deriving DecidableEq, Repr, Inhabited

namespace Family

/-- What messages call the family. -/
def name : Family → String
  | .text => "str"
  | .object => "object"
  | .family => "type"
  | .row => "tuple"
  | .number => "int"
  | .nothing => "NoneType"
  | .operation => "method_descriptor"
  | .slot => "wrapper_descriptor"
  | .boundOperation => "builtin_function_or_method"
  | .boundSlot => "method-wrapper"
  | .entries => "mappingproxy"

/-- The family and those it descends from, nearest first. -/
def ancestry : Family → List Family
  | .object => [.object]
  | f => [f, .object]

/-- The families that it descends from directly. -/
def parents (f : Family) : List Family := f.ancestry.drop 1

/-- The manual of the family. -/
def manual? : Family → Option String
  | .text => some (
      "str(object='') -> str\nstr(bytes_or_buffer[, encoding[, errors]]) -> str\n\n" ++
      "Create a new string object from the given object. If encoding or\n" ++
      "errors is specified, then the object must expose a data buffer\n" ++
      "that will be decoded using the given encoding and error handler.\n" ++
      "Otherwise, returns the result of object.__str__() (if defined)\n" ++
      "or repr(object).\nencoding defaults to sys.getdefaultencoding().\n" ++
      "errors defaults to 'strict'.")
  | .object => some (
      "The base class of the class hierarchy.\n\n" ++
      "When called, it accepts no arguments and returns a new featureless\n" ++
      "instance that has no instance attributes and cannot be given any.\n")
  | .family => some (
      "type(object) -> the object's type\n" ++
      "type(name, bases, dict, **kwds) -> a new type")
  | .row => some (
      "Built-in immutable sequence.\n\n" ++
      "If no argument is given, the constructor returns an empty tuple.\n" ++
      "If iterable is specified the tuple is initialized from iterable's items.\n\n" ++
      "If the argument is a tuple, the return value is the same object.")
  | .number => some (
      "int([x]) -> integer\nint(x, base=10) -> integer\n\n" ++
      "Convert a number or string to an integer, or return 0 if no arguments\n" ++
      "are given.  If x is a number, return x.__int__().  For floating point\n" ++
      "numbers, this truncates towards zero.\n\n" ++
      "If x is not a number or if base is given, then x must be a string,\n" ++
      "bytes, or bytearray instance representing an integer literal in the\n" ++
      "given base.  The literal can be preceded by '+' or '-' and be surrounded\n" ++
      "by whitespace.  The base defaults to 10.  Valid bases are 0 and 2-36.\n" ++
      "Base 0 means to interpret the base from the string as an integer literal.\n" ++
      ">>> int('0b100', base=0)\n4")
  | _ => none

/-- How a value of the family is made from others. -/
def signature? : Family → Option String
  | .object => some "()"
  | .row => some "(iterable=(), /)"
  | _ => none

/-- The measures of the family. -/
def measures : Family → Measures
  | .text => ⟨80, 0, 273159424, 0, 0⟩
  | .object => ⟨16, 0, 529664, 0, 0⟩
  | .family => ⟨904, 40, 2148031744, 264, 368⟩
  | .row => ⟨24, 8, 71849248, 0, 0⟩
  | .number => ⟨24, 4, 21501184, 0, 0⟩
  | .nothing => ⟨16, 0, 528640, 0, 0⟩
  | .operation => ⟨56, 0, 153984, 0, 0⟩
  | .slot => ⟨56, 0, 151936, 0, 0⟩
  | .boundOperation => ⟨56, 0, 547200, 0, 40⟩
  | .boundSlot => ⟨32, 0, 20864, 0, 0⟩
  | .entries => ⟨24, 0, 545088, 0, 0⟩

/-! ## Operations -/

/-- The operations behind operators that the family defines. -/
def slots : Family → List String
  | .text => ["__repr__", "__hash__", "__str__", "__getattribute__", "__lt__", "__le__", "__eq__",
      "__ne__", "__gt__", "__ge__", "__iter__", "__mod__", "__rmod__", "__len__", "__getitem__",
      "__add__", "__mul__", "__rmul__", "__contains__"]
  | .object => ["__repr__", "__hash__", "__str__", "__getattribute__", "__setattr__",
      "__delattr__", "__lt__", "__le__", "__eq__", "__ne__", "__gt__", "__ge__", "__init__"]
  | .family => ["__repr__", "__call__", "__getattribute__", "__setattr__", "__delattr__",
      "__init__", "__or__", "__ror__"]
  | .row => ["__repr__", "__hash__", "__getattribute__", "__lt__", "__le__", "__eq__", "__ne__",
      "__gt__", "__ge__", "__iter__", "__len__", "__getitem__", "__add__", "__mul__", "__rmul__",
      "__contains__"]
  | .number => ["__repr__", "__hash__", "__getattribute__", "__lt__", "__le__", "__eq__", "__ne__",
      "__gt__", "__ge__", "__add__", "__radd__", "__sub__", "__rsub__", "__mul__", "__rmul__",
      "__mod__", "__rmod__", "__divmod__", "__rdivmod__", "__pow__", "__rpow__", "__neg__",
      "__pos__", "__abs__", "__bool__", "__invert__", "__lshift__", "__rlshift__", "__rshift__",
      "__rrshift__", "__and__", "__rand__", "__xor__", "__rxor__", "__or__", "__ror__", "__int__",
      "__float__", "__floordiv__", "__rfloordiv__", "__truediv__", "__rtruediv__", "__index__"]
  | .nothing => ["__repr__", "__bool__"]
  | .operation => ["__repr__", "__call__", "__getattribute__", "__get__"]
  | .slot => ["__repr__", "__call__", "__getattribute__", "__get__"]
  | .boundOperation => ["__repr__", "__hash__", "__call__", "__getattribute__", "__lt__", "__le__",
      "__eq__", "__ne__", "__gt__", "__ge__"]
  | .boundSlot => ["__repr__", "__hash__", "__call__", "__getattribute__", "__lt__", "__le__",
      "__eq__", "__ne__", "__gt__", "__ge__"]
  | .entries => ["__repr__", "__str__", "__getattribute__", "__lt__", "__le__", "__eq__", "__ne__",
      "__gt__", "__ge__", "__iter__", "__or__", "__ror__", "__ior__", "__len__", "__getitem__",
      "__contains__"]

/-- The operations under names of their own that the family defines. -/
def operations : Family → List String
  | .text => ["encode", "replace", "split", "rsplit", "join", "capitalize", "casefold", "title",
      "center", "count", "expandtabs", "find", "partition", "index", "ljust", "lower", "lstrip",
      "rfind", "rindex", "rjust", "rstrip", "rpartition", "splitlines", "strip", "swapcase",
      "translate", "upper", "startswith", "endswith", "removeprefix", "removesuffix", "isascii",
      "islower", "isupper", "istitle", "isspace", "isdecimal", "isdigit", "isnumeric", "isalpha",
      "isalnum", "isidentifier", "isprintable", "zfill", "format", "format_map", "__format__",
      "__sizeof__", "__getnewargs__"]
  | .object => ["__reduce_ex__", "__reduce__", "__getstate__", "__format__", "__sizeof__",
      "__dir__"]
  | .family => ["mro", "__subclasses__", "__instancecheck__", "__subclasscheck__", "__dir__",
      "__sizeof__"]
  | .row => ["__getnewargs__", "index", "count"]
  | .number => ["conjugate", "bit_length", "bit_count", "to_bytes", "as_integer_ratio",
      "__trunc__", "__floor__", "__ceil__", "__round__", "__getnewargs__", "__format__",
      "__sizeof__"]
  | .operation => ["__reduce__"]
  | .slot => ["__reduce__"]
  | .boundOperation => ["__reduce__"]
  | .boundSlot => ["__reduce__"]
  | .entries => ["get", "keys", "values", "items", "copy", "__reversed__"]
  | _ => []

/-- The operations on itself that the family defines. -/
def ownOperations : Family → List String
  | .text => ["__new__", "maketrans"]
  | .object => ["__new__", "__subclasshook__", "__init_subclass__"]
  | .family => ["__new__", "__prepare__"]
  | .row => ["__new__", "__class_getitem__"]
  | .number => ["__new__", "from_bytes"]
  | .nothing => ["__new__"]
  | .entries => ["__new__", "__class_getitem__"]
  | _ => []

/-- How the family itself defines an operation of this name, if it does. -/
def manner? (f : Family) (name : String) : Option Manner :=
  if f.slots.contains name then some .slot
  else if f.operations.contains name then some .named
  else if f.ownOperations.contains name then some .onFamily
  else none

/-- The nearest family of the descent that defines an operation, and how. -/
def definer? (f : Family) (name : String) : Option (Family × Manner) :=
  f.ancestry.findSome? fun g => (g.manner? name).map fun manner => (g, manner)

end Family

end Formula.Text.Template
