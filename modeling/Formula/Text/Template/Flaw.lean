import Formula.Fault
import Formula.Text.Numeral
set_option autoImplicit false

/-!
# Flaws of a message template

All that can be wrong with a template or with filling it, and the fault each is reported
as.
-/

namespace Formula.Text.Template

/-- What is wrong with a template. -/
inductive Flaw where
  /-- The template ends with an opening brace. -/
  | loneOpen
  /-- A closing brace stands alone outside a field. -/
  | loneClose
  /-- An opening brace inside the name of a field. -/
  | nestedOpen
  /-- The template ends inside the name of a field. -/
  | unclosedName
  /-- The template ends inside the layout of a field. -/
  | unclosedLayout
  /-- The template ends where a conversion was announced. -/
  | missingConversion
  /-- Something other than a layout follows a conversion. -/
  | trailingConversion
  /-- A conversion that does not exist. -/
  | unknownConversion (c : Char)
  /-- A position with too many digits to be one. -/
  | hugePosition
  /-- A part of an argument is asked for without saying which. -/
  | emptyPart
  /-- Something other than a part follows a part in brackets. -/
  | afterBracket
  /-- A numbered field before a field without number. -/
  | numberedFirst
  /-- A field without number before a numbered one. -/
  | numberedLater
  /-- Layouts inside layouts inside layouts. -/
  | layoutTooDeep
  /-- A field for an argument that is not there. -/
  | noArgument (position : Nat)
  /-- A field for a named argument; there are none. -/
  | noName (name : String)
  /-- A part that the value does not have; `holder` is what the message calls the value. -/
  | noPart (holder name : String)
  /-- An item beyond the end of a value of this sort. -/
  | noItem (sort : String)
  /-- An item asked for by something other than a position; the message is the rule. -/
  | namedItem (rule : String)
  /-- An item of a value that has none. -/
  | noItems (holder : String)
  /-- A position where only names are known. -/
  | noEntry (position : Nat)
  /-- A layout for a value of a family that takes none. -/
  | noLayout (family : String)
  /-- A layout that cannot be read. -/
  | unreadableLayout (layout : String)
  /-- A layout for another sort of value. -/
  | foreignLayout (code : Char)
  /-- A precision is announced and missing. -/
  | missingPrecision
  /-- Both marks for thousands at once. -/
  | bothThousands
  /-- A mark for thousands, with the code of the layout. -/
  | thousands (mark code : Char)
  /-- A sign, which texts do not have. -/
  | sign
  /-- A space in place of a sign. -/
  | spaceSign
  /-- The mark that drops the sign of zero. -/
  | zeroSign
  /-- The mark for the alternate form of a number. -/
  | alternate
  /-- Padding between sign and digits. -/
  | signPadding
  /-- A width that no text can have. -/
  | tooWide
  deriving DecidableEq, Repr, Inhabited

/-- A character as a message names it: itself if its code point lies strictly between the
space and the limit, else by that code point. -/
def plainBelow (limit : Nat) (c : Char) : String :=
  if 32 < c.toNat ∧ c.toNat < limit then String.singleton c
  else "\\x" ++ String.ofList (Nat.toDigits 16 c.toNat)

/-- The fault that a flaw is reported as. -/
def Flaw.fault : Flaw → Fault
  | .loneOpen => .value "Single '\x7b' encountered in format string"
  | .loneClose => .value "Single '\x7d' encountered in format string"
  | .nestedOpen => .value "unexpected '\x7b' in field name"
  | .unclosedName => .value "expected '\x7d' before end of string"
  | .unclosedLayout => .value "unmatched '\x7b' in format spec"
  | .missingConversion => .value "end of string while looking for conversion specifier"
  | .trailingConversion => .value "expected ':' after conversion specifier"
  | .unknownConversion c => .value ("Unknown conversion specifier " ++ plainBelow 127 c)
  | .hugePosition => .value "Too many decimal digits in format string"
  | .emptyPart => .value "Empty attribute in format string"
  | .afterBracket => .value "Only '.' or '[' may follow ']' in format field specifier"
  | .numberedFirst => .value
      "cannot switch from manual field specification to automatic field numbering"
  | .numberedLater => .value
      "cannot switch from automatic field numbering to manual field specification"
  | .layoutTooDeep => .value "Max string recursion exceeded"
  | .noArgument position => .index
      ("Replacement index " ++ toString position ++ " out of range for positional args tuple")
  | .noName name => .key name
  | .noPart holder name => .part (holder ++ " has no attribute '" ++ name ++ "'")
  | .noItem sort => .index (sort ++ " index out of range")
  | .namedItem rule => .type rule
  | .noItems holder => .type (holder ++ " is not subscriptable")
  | .noEntry position => ⟨"KeyError", toString position⟩
  | .noLayout family => .type ("unsupported format string passed to " ++ family ++ ".__format__")
  | .unreadableLayout layout => .value
      ("Invalid format specifier '" ++ layout ++ "' for object of type 'str'")
  | .foreignLayout code => .value
      ("Unknown format code '" ++ plainBelow 128 code ++ "' for object of type 'str'")
  | .missingPrecision => .value "Format specifier missing precision"
  | .bothThousands => .value "Cannot specify both ',' and '_'."
  | .thousands mark code => .value
      ("Cannot specify '" ++ String.singleton mark ++ "' with '" ++ plainBelow 128 code ++ "'.")
  | .sign => .value "Sign not allowed in string format specifier"
  | .spaceSign => .value "Space not allowed in string format specifier"
  | .zeroSign => .value "Negative zero coercion (z) not allowed in string format specifier"
  | .alternate => .value "Alternate form (#) not allowed in string format specifier"
  | .signPadding => .value "'=' alignment not allowed in string format specifier"
  | .tooWide => .outOfMemory

/-- Reads decimal digits as a position; none if there is another character or nothing at
all, and a flaw as soon as the number exceeds 2^63 - 1. -/
def readPosition : List Char → Option Nat → Except Flaw (Option Nat)
  | [], read => .ok read
  | c :: rest, read =>
      match decimalValue? c with
      | none => .ok none
      | some digit =>
          let n := read.getD 0 * 10 + digit
          if n < 0x8000000000000000 then readPosition rest (some n) else .error .hugePosition

end Formula.Text.Template
