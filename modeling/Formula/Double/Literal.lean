import Formula.Double.Rounding
import Formula.Text.Blank
import Formula.Text.Numeral
set_option autoImplicit false

/-!
# Number literals

A literal is a decimal with optional sign, point and exponent, or an infinity or
not-a-number by name in any case.  It may stand between blanks, single underscores may
separate digits, and decimal digits of every script count.  Its value is the double
nearest to the written number.
-/

namespace Formula

namespace Double

/-! ## Spelling -/

/-- The blanks that may stand around a literal below code point 128. -/
def isPlainBlank (c : Char) : Bool :=
  c == ' ' || (9 ≤ c.toNat && c.toNat ≤ 13)

/-- A character in its plain spelling: other blanks become spaces, decimal digits of other
scripts the plain digits; no other character beyond code point 127 has one. -/
def plainSpelling (c : Char) : Option Char :=
  if c.toNat < 128 then some c
  else if Text.isBlank c then some ' '
  else (Text.decimalValue? c).map Nat.digitChar

/-- The value of a plain digit. -/
def plainDigit? (c : Char) : Option Nat :=
  if 48 ≤ c.toNat ∧ c.toNat ≤ 57 then some (c.toNat - 48) else none

/-- Is it a plain digit? -/
def isPlainDigit (c : Char) : Bool := (plainDigit? c).isSome

/-- The text without blanks at its ends. -/
def trimPlain (s : List Char) : List Char :=
  ((s.dropWhile isPlainBlank).reverse.dropWhile isPlainBlank).reverse

/-- Drops the underscores, each of which must stand between two digits. -/
def dropSeparators (afterDigit : Bool) : List Char → Option (List Char)
  | [] => some []
  | '_' :: rest =>
      if afterDigit && (rest.head?.map isPlainDigit).getD false then dropSeparators false rest
      else none
  | c :: rest => (dropSeparators (isPlainDigit c) rest).map (c :: ·)

/-- Takes a sign, if there is one, and says whether it is a minus. -/
def takeSign : List Char → Bool × List Char
  | '-' :: rest => (true, rest)
  | '+' :: rest => (false, rest)
  | cs => (false, cs)

/-- The values of the leading digits, and what follows them. -/
def takeDigits (cs : List Char) : List Nat × List Char :=
  ((cs.takeWhile isPlainDigit).filterMap plainDigit?, cs.dropWhile isPlainDigit)

/-- The number that decimal digits write. -/
def digitsValue (digits : List Nat) : Nat := digits.foldl (fun n digit => n * 10 + digit) 0

/-- The exponent that ends a literal: nothing, or `e`, an optional sign and digits. -/
def exponent? : List Char → Option Int
  | [] => some 0
  | c :: rest =>
      if c = 'e' ∨ c = 'E' then
        let (negative, rest) := takeSign rest
        match takeDigits rest with
        | ([], _) => none
        | (digits, []) => some (if negative then -(digitsValue digits : Int) else digitsValue digits)
        | (_, _ :: _) => none
      else none

/-! ## Value -/

/-- The double nearest to `digits * 10 ^ exponent`.  A number whose first digit stands far
beyond the range of doubles is not computed. -/
def ofDecimal (negative : Bool) (digits : List Nat) (exponent : Int) : Double :=
  let digits := digits.dropWhile (· == 0)
  let magnitude := (digits.length : Int) + exponent
  if digits.isEmpty then zero negative
  else if 400 < magnitude then .infinity negative
  else if magnitude < -400 then zero negative
  else ofRatio negative
    (digitsValue digits * tenTo exponent.toNat) (tenTo (-exponent).toNat)

/-- An unsigned decimal. -/
def decimal? (negative : Bool) (cs : List Char) : Option Double :=
  let (whole, rest) := takeDigits cs
  let (fraction, rest) := match rest with
    | '.' :: rest => takeDigits rest
    | rest => ([], rest)
  if whole.isEmpty && fraction.isEmpty then none
  else (exponent? rest).map fun exponent =>
    ofDecimal negative (whole ++ fraction) (exponent - fraction.length)

/-- An infinity or not-a-number by name. -/
def named? (negative : Bool) (cs : List Char) : Option Double :=
  let name := cs.map Char.toLower
  if name = "inf".toList ∨ name = "infinity".toList then some (.infinity negative)
  else if name = "nan".toList then some .nan
  else none

/-- The value of a literal; none if the text is no literal. -/
def ofLiteral? (text : String) : Option Double :=
  match text.toList.mapM plainSpelling with
  | none => none
  | some plain =>
      match dropSeparators false (trimPlain plain) with
      | none => none
      | some cs =>
          let (negative, rest) := takeSign cs
          match named? negative rest with
          | some x => some x
          | none => decimal? negative rest

end Double

end Formula
