import Formula.Double.Literal
import Formula.Problem
import Formula.Text.Blank
import Formula.Text.Numeral
set_option autoImplicit false

/-!
# Definitions

A definition is a name, an equals sign and a literal.  The name is one member or more
with periods between them; a member is a letter, and letters and numerals after it.
Blanks around the name and the literal do not matter.
-/

namespace Formula

open Text (Style)

/-- A name and the value it is to have. -/
structure Definition where
  name : String
  value : Double
  deriving DecidableEq, Repr

/-- Why a text is no definition. -/
inductive DefinitionError where
  /-- There is no equals sign, or no name before it. -/
  | noName (text : String)
  /-- What follows the equals sign is no literal. -/
  | noValue (text : String)
  deriving DecidableEq, Repr

namespace Definition

/-- The parts of a text between the occurrences of a character; one more than those. -/
def splitAt (separator : Char) : List Char → List (List Char)
  | [] => [[]]
  | c :: rest =>
      if c = separator then [] :: splitAt separator rest
      else
        match splitAt separator rest with
        | [] => [[c]]
        | part :: parts => (c :: part) :: parts

/-- Is it a letter, followed by letters and numerals? -/
def isMember : List Char → Bool
  | [] => false
  | c :: rest => Text.isLetter c && rest.all Text.isLetterOrNumeral

/-- Is it one member or more, with periods between them? -/
def isName (name : List Char) : Bool := (splitAt '.' name).all isMember

/-- The text before the first equals sign, and the text after it if there is one. -/
def cutAtEquals : List Char → List Char × Option (List Char)
  | [] => ([], none)
  | c :: rest =>
      if c = '=' then ([], some rest)
      else
        let cut := cutAtEquals rest
        (c :: cut.1, cut.2)

/-- Reads a definition. -/
def ofText (text : String) : Except DefinitionError Definition :=
  let cut := cutAtEquals text.toList
  let name := Text.trimBlank cut.1
  match cut.2 with
  | none => .error (.noName text)
  | some literal =>
      if isName name then
        match Double.ofLiteral? (String.ofList literal) with
        | some value => .ok ⟨String.ofList name, value⟩
        | none => .error (.noValue text)
      else .error (.noName text)

end Definition

/-- The problem that a text is no definition. -/
def DefinitionError.problem (style : Style) : DefinitionError → Problem
  | .noName text => .about .general
      ("'" ++ style.bold text ++ "' is not a valid definition, expected NAME=VALUE") text
  | .noValue text => .about .general
      ("'" ++ style.bold text ++ "' does not define a number") text

end Formula
