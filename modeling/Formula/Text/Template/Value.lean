import Formula.Text.Quoted
import Formula.Text.Template.Family
import Formula.Text.Template.Flaw
set_option autoImplicit false

/-!
# Values in a template

What a field can come upon when it starts from a text and asks for parts and items: texts,
families, rows of families, numbers, the value that stands for none, and operations, by
themselves or together with the value they work on.  A part is asked for by name, an item
by a position or a key in brackets.

Where a value is in memory is not known; where a text would show it, it is zero.
-/

namespace Formula.Text.Template

/-- A value. -/
inductive Value where
  | text (s : List Char)
  | family (f : Family)
  | row (families : List Family)
  | number (n : Nat)
  | nothing
  /-- An operation by itself; `owner` defines it. -/
  | operation (owner : Family) (isSlot : Bool) (name : String)
  /-- An operation together with the value that it works on. -/
  | bound (owner : Family) (manner : Manner) (name : String) (self : Value)
  /-- What a family itself defines, by name. -/
  | entries (f : Family)
  deriving Repr, Inhabited

namespace Value

/-- The value of a text. -/
def ofString (s : String) : Value := .text s.toList

/-- The value of a text that may be missing. -/
def ofOption (s : Option String) : Value := (s.map ofString).getD .nothing

/-- The family of a value. -/
def familyOf : Value → Family
  | .text _ => .text
  | .family _ => .family
  | .row _ => .row
  | .number _ => .number
  | .nothing => .nothing
  | .operation _ isSlot _ => if isSlot then .slot else .operation
  | .bound _ manner _ _ => if manner = .slot then .boundSlot else .boundOperation
  | .entries _ => .entries

/-! ## Texts of values -/

/-- A value as it stands in a text. -/
def shown : Value → List Char
  | .text s => s
  | .family f => ("<class '" ++ f.name ++ "'>").toList
  | .row families =>
      let names := families.map fun f => "<class '" ++ f.name ++ "'>"
      ("(" ++ ", ".intercalate names ++ (if names.length = 1 then ",)" else ")")).toList
  | .number n => Nat.toDigits 10 n
  | .nothing => "None".toList
  | .operation owner isSlot name =>
      ((if isSlot then "<slot wrapper '" else "<method '") ++ name ++ "' of '" ++ owner.name
        ++ "' objects>").toList
  | .bound _ manner name self =>
      ((if manner = .slot then "<method-wrapper '" ++ name ++ "'" else "<built-in method " ++ name)
        ++ " of " ++ self.familyOf.name ++ " object at 0x0>").toList
  | .entries _ => "mappingproxy(\x7b\x7d)".toList

/-- A value as it stands in a text where texts are quoted. -/
def shownQuoted : Value → List Char
  | .text s => (quoted (String.ofList s)).toList
  | v => v.shown

/-! ## Parts -/

/-- How a message about a missing part names the value. -/
def holder : Value → String
  | .family f => "type object '" ++ f.name ++ "'"
  | v => "'" ++ v.familyOf.name ++ "' object"

/-- The parts of a family. -/
def partOfFamily? (f : Family) : String → Option Value
  | "__name__" => some (ofString f.name)
  | "__qualname__" => some (ofString f.name)
  | "__module__" => some (ofString "builtins")
  | "__mro__" => some (.row f.ancestry)
  | "__bases__" => some (.row f.parents)
  | "__base__" => some ((f.parents.head?.map Value.family).getD .nothing)
  | "__dict__" => some (.entries f)
  | "__text_signature__" => some (ofOption f.signature?)
  | "__basicsize__" => some (.number f.measures.basic)
  | "__itemsize__" => some (.number f.measures.perItem)
  | "__flags__" => some (.number f.measures.flags)
  | "__dictoffset__" => some (.number f.measures.entriesOffset)
  | "__weakrefoffset__" => some (.number f.measures.referencesOffset)
  | _ => none

/-- The parts of an integer that is not negative. -/
def partOfNumber? (n : Nat) : String → Option Value
  | "real" => some (.number n)
  | "numerator" => some (.number n)
  | "imag" => some (.number 0)
  | "denominator" => some (.number 1)
  | _ => none

/-- The parts of an operation by itself. -/
def partOfOperation? (owner : Family) (name : String) : String → Option Value
  | "__name__" => some (ofString name)
  | "__qualname__" => some (ofString (owner.name ++ "." ++ name))
  | "__objclass__" => some (.family owner)
  | _ => none

/-- What an operation is called in full: by the family that defines it behind an operator,
else by the value that it works on. -/
def fullName (owner : Family) (manner : Manner) (name : String) (self : Value) : String :=
  let holder := match manner, self with
    | .slot, _ => owner
    | _, .family f => f
    | _, v => v.familyOf
  holder.name ++ "." ++ name

/-- The parts of an operation that works on a value. -/
def partOfBound? (owner : Family) (manner : Manner) (name : String) (self : Value) :
    String → Option Value
  | "__name__" => some (ofString name)
  | "__qualname__" => some (ofString (fullName owner manner name self))
  | "__self__" => some (if name = "maketrans" then .nothing else self)
  | "__objclass__" => if manner = .slot then some (.family owner) else none
  | "__module__" => if manner = .slot then none else some .nothing
  | _ => none

/-- The manual of a value; operations come without one. -/
def manual : Value → Value
  | .family f => ofOption f.manual?
  | .operation _ _ _ => .nothing
  | .bound _ _ _ _ => .nothing
  | v => ofOption v.familyOf.manual?

/-- The parts that are no operations. -/
def ownPart? (v : Value) (name : String) : Option Value :=
  if name = "__class__" then some (.family v.familyOf)
  else if name = "__doc__" then some v.manual
  else
    match v with
    | .family f => partOfFamily? f name
    | .number n => partOfNumber? n name
    | .operation owner _ called => partOfOperation? owner called name
    | .bound owner manner called self => partOfBound? owner manner called self name
    | _ => none

/-- An operation that works on a value.  One that is defined on the family works on that: on
the one it was looked up in, or, if it makes new values, on the one that defines it. -/
def bind (owner : Family) (manner : Manner) (name : String) (v : Value) (f : Family) : Value :=
  if manner = .onFamily then
    .bound owner manner name (.family (if name = "__new__" then owner else f))
  else .bound owner manner name v

/-- An operation of a family as a part of the family itself. -/
def unbound (owner : Family) (manner : Manner) (name : String) (f : Family) : Value :=
  match manner with
  | .onFamily => bind owner manner name (.family f) f
  | manner => .operation owner (manner = .slot) name

/-- The operation of this name.  A family has those that its values have, by themselves, and
those of all families. -/
def operation? (v : Value) (name : String) : Option Value :=
  let ofFamily := (v.familyOf.definer? name).map fun (owner, manner) =>
    bind owner manner name v v.familyOf
  match v with
  | .family f => ((f.definer? name).map fun (owner, manner) => unbound owner manner name f).or ofFamily
  | _ => ofFamily

/-- The part of this name. -/
def part (v : Value) (name : String) : Except Flaw Value :=
  match (v.ownPart? name).or (v.operation? name) with
  | some w => .ok w
  | none => .error (.noPart v.holder name)

/-! ## Items -/

/-- An entry of a family. -/
def entry? (f : Family) (name : String) : Option Value :=
  if name = "__doc__" then some (ofOption f.manual?)
  else (f.manner? name).map fun manner => unbound f manner name f

/-- The item under a key, or at the position that the key is read as. -/
def item (v : Value) (key : String) (position : Option Nat) : Except Flaw Value :=
  match v, position with
  | .text s, some position =>
      match s[position]? with
      | some c => .ok (.text [c])
      | none => .error (.noItem "string")
  | .text _, none => .error (.namedItem "string indices must be integers, not 'str'")
  | .row families, some position =>
      match families[position]? with
      | some f => .ok (.family f)
      | none => .error (.noItem "tuple")
  | .row _, none => .error (.namedItem "tuple indices must be integers or slices, not str")
  | .entries _, some position => .error (.noEntry position)
  | .entries f, none =>
      match entry? f key with
      | some w => .ok w
      | none => .error (.noName key)
  | .family .family, some position => .ok (ofString ("type[" ++ toString position ++ "]"))
  | .family .family, none => .ok (ofString ("type[" ++ quoted key ++ "]"))
  | .family f, _ => .error (.noItems ("type '" ++ f.name ++ "'"))
  | v, _ => .error (.noItems ("'" ++ v.familyOf.name ++ "' object"))

end Value

end Formula.Text.Template
