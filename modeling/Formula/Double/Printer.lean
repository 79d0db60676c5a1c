import Formula.Double.Digits
set_option autoImplicit false

/-!
# The text of a double

A number is written positionally if its first digit stands near the point, and with an
exponent otherwise; where these notations meet and whether an integer keeps a point is a
`NumberStyle`.  Three texts are in use: the full text, which reads back as the same
double; the brief text with six digits, used inside messages; and the text of an answer,
which is the full text without the point of an integer.
-/

namespace Formula

namespace Double

/-- How numbers are written. -/
structure NumberStyle where
  /-- The least exponent of the first digit that is written positionally. -/
  leastPositional : Int
  /-- The greatest such exponent. -/
  greatestPositional : Int
  /-- Is an integer written with a point and a zero? -/
  keepsPoint : Bool
  deriving DecidableEq, Repr

/-- Positional from `0.0001` to below `10 ^ 16`, integers with a point. -/
def fullStyle : NumberStyle := ⟨-4, 15, true⟩

/-- Positional from `0.0001` to below `10 ^ 6`, integers without point. -/
def briefStyle : NumberStyle := ⟨-4, 5, false⟩

/-- The number of digits of the brief text. -/
def briefDigits : Nat := 6

/-- A decimal's digits without the zeros at the end, and the number of places before the
point. -/
def significantDigits (d : Decimal) : List Char × Int :=
  let digits := Nat.toDigits 10 d.coefficient
  ((digits.reverse.dropWhile (· == '0')).reverse, digits.length + d.exponent)

/-- Digits around a point that stands `places` places after their start. -/
def positional (keepsPoint : Bool) (digits : List Char) (places : Int) : List Char :=
  if places ≤ 0 then '0' :: '.' :: List.replicate (-places).toNat '0' ++ digits
  else
    let whole := digits.take places.toNat
    let fraction := digits.drop places.toNat
    let whole := whole ++ List.replicate (places.toNat - whole.length) '0'
    if fraction.isEmpty then if keepsPoint then whole ++ ['.', '0'] else whole
    else whole ++ '.' :: fraction

/-- The digits of an exponent, at least two. -/
def exponentDigits (n : Nat) : List Char :=
  if n < 10 then '0' :: Nat.toDigits 10 n else Nat.toDigits 10 n

/-- One digit before the point and an exponent with a sign. -/
def scientific (digits : List Char) (exponent : Int) : List Char :=
  let mantissa := match digits with
    | first :: second :: rest => first :: '.' :: second :: rest
    | digits => digits
  mantissa ++ 'e' :: (if exponent < 0 then '-' else '+') :: exponentDigits exponent.natAbs

/-- The text of a positive decimal. -/
def NumberStyle.write (style : NumberStyle) (d : Decimal) : List Char :=
  let (digits, places) := significantDigits d
  let exponent := places - 1
  if style.leastPositional ≤ exponent ∧ exponent ≤ style.greatestPositional then
    positional style.keepsPoint digits places
  else scientific digits exponent

/-- A text with a minus in front of it if asked for. -/
def signedText (negative : Bool) (text : List Char) : String :=
  String.ofList (if negative then '-' :: text else text)

/-- The text of a double, the digits of finite numbers other than zero being chosen by
`choose`. -/
def textWith (style : NumberStyle) (choose : Nat → Int → Decimal) : Double → String
  | .nan => "nan"
  | .infinity negative => signedText negative "inf".toList
  | .finite negative significand exponent _ =>
      if significand = 0 then signedText negative (positional style.keepsPoint ['0'] 1)
      else signedText negative (style.write (choose significand exponent))

/-- The full text: the fewest digits that read back as the same double. -/
def toText (x : Double) : String := textWith fullStyle shortest x

/-- The brief text: six digits at most. -/
def toBriefText (x : Double) : String := textWith briefStyle (rounded briefDigits) x

/-- The greatest integer that an answer shows in full. -/
def greatestPlainInteger : Double := ofNat (tenTo 16)

/-- The text of an answer: integers up to `10 ^ 16` without point, and without the sign of
zero; other numbers in full. -/
def answerText (x : Double) : String :=
  if x.isInteger && x.abs.le greatestPlainInteger then
    signedText (x.isNegative && !x.isZero) (Nat.toDigits 10 x.integerPart)
  else x.toText

end Double

end Formula
