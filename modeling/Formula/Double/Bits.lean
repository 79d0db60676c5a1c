import Formula.Double.Basic
set_option autoImplicit false

/-!
# The bit pattern of a double

One sign bit, eleven bits of biased exponent, 52 bits of fraction.  The biased exponent
is zero for doubles with fewer than 53 bits of significand, and all ones for the
infinities and not-a-number.
-/

namespace Formula

namespace Double

/-- The sign bit of a pattern. -/
def signBit (negative : Bool) : Nat := if negative then 0x8000000000000000 else 0

/-- The bit pattern; not-a-number has the quiet pattern without payload. -/
def toBits : Double → UInt64
  | .nan => 0x7FF8000000000000
  | .infinity negative => UInt64.ofNat (signBit negative + 0x7FF0000000000000)
  | .finite negative significand exponent _ =>
      if significand < 0x10000000000000 then UInt64.ofNat (signBit negative + significand)
      else UInt64.ofNat
        (signBit negative + (exponent + 1075).toNat * 0x10000000000000
          + (significand - 0x10000000000000))

/-- The double of a bit pattern; the payload of not-a-number is dropped. -/
def ofBits (bits : UInt64) : Double :=
  let n := bits.toNat
  let negative := decide (0x8000000000000000 ≤ n)
  let biased : Nat := n / 0x10000000000000 % 0x800
  let fraction : Nat := n % 0x10000000000000
  if biased = 0x7FF then if fraction = 0 then .infinity negative else .nan
  else if biased = 0 then ofParts negative fraction (-1074)
  else ofParts negative (0x10000000000000 + fraction) ((biased : Int) - 1075)

end Double

end Formula
