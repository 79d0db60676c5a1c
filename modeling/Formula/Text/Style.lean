set_option autoImplicit false

/-!
# Styled text

Messages are written plainly or with terminal escapes.  In the styled form a snippet is
bold, and a heading or a marked span is bold and coloured; the escape that ends a styled
span resets everything.
-/

namespace Formula.Text

/-- How messages are written. -/
inductive Style where
  /-- Without escapes. -/
  | plain
  /-- With terminal escapes for weight and colour. -/
  | terminal
  deriving DecidableEq, Repr, Inhabited

/-- The two colours in use: one for errors, one for warnings. -/
inductive Colour where
  | red
  | magenta
  deriving DecidableEq, Repr, Inhabited

namespace Colour

/-- The terminal's number of a foreground colour. -/
def code : Colour → String
  | .red => "31"
  | .magenta => "35"

end Colour

namespace Style

/-- The escape that switches one rendition on. -/
def escape (code : String) : String := "\x1b[" ++ code ++ "m"

/-- A text in bold. -/
def bold : Style → String → String
  | .plain, text => text
  | .terminal, text => escape "1" ++ text ++ escape "0"

/-- A text in bold and colour. -/
def coloured : Style → Colour → String → String
  | .plain, _, text => text
  | .terminal, colour, text => escape "1" ++ escape colour.code ++ text ++ escape "0"

end Style

end Formula.Text
