/-!
# Numbers with a fraction

The numbers of the binary64 interchange format, kept as their 64 bits, so that two numbers are
equal exactly when they are bound as the same value: the two zeros differ and a NaN equals itself.
No arithmetic is needed beyond reading a decimal, writing one and comparing with zero.
-/

set_option autoImplicit false

namespace RunFilter

/-- A number of the binary64 format: a sign bit, eleven bits of exponent and 52 bits of
fraction. -/
structure Binary64 where
  /-- The interchange encoding. -/
  bits : UInt64
  deriving DecidableEq, Repr, Inhabited

namespace Binary64

/-- The weight of the sign bit in the encoding. -/
def signBit : Nat := 0x8000000000000000

/-- The weight of the lowest bit of the exponent in the encoding, and of the hidden leading bit in
a significand. -/
def hiddenBit : Nat := 0x10000000000000

/-- Whether the sign bit is set. -/
def isNegative (x : Binary64) : Bool := signBit ≤ x.bits.toNat

/-- The eleven bits of the biased exponent. -/
def exponentField (x : Binary64) : Nat := x.bits.toNat / hiddenBit % 0x800

/-- The 52 bits of the fraction. -/
def fractionField (x : Binary64) : Nat := x.bits.toNat % hiddenBit

/-- The bits of an exponent and a fraction that is added to it, so that a fraction as large
as the hidden bit carries into the exponent. -/
def ofFields (negative : Bool) (exponent fraction : Nat) : Binary64 :=
  ⟨UInt64.ofNat ((if negative then signBit else 0) + exponent * hiddenBit + fraction)⟩

/-- Zero with a sign. -/
def zero (negative : Bool) : Binary64 := ofFields negative 0 0

/-- Infinity with a sign. -/
def infinity (negative : Bool) : Binary64 := ofFields negative 2047 0

/-- What the bits stand for, the sign aside. -/
inductive Magnitude where
  /-- No number. -/
  | nan
  /-- Larger than every number. -/
  | infinite
  /-- The number `significand * 2 ^ exponent`. -/
  | finite (significand : Nat) (exponent : Int)

/-- The significand has a hidden leading bit unless the exponent field is zero. -/
def magnitude (x : Binary64) : Magnitude :=
  if x.exponentField = 2047 then
    if x.fractionField = 0 then .infinite else .nan
  else if x.exponentField = 0 then .finite x.fractionField (-1074)
  else .finite (hiddenBit + x.fractionField) (x.exponentField - 1075)

/-- **How zero compares with the number**; a NaN does not compare. -/
def zeroCompare (x : Binary64) : Option Ordering :=
  match x.magnitude with
  | .nan => none
  | .finite 0 _ => some .eq
  | _ => some (if x.isNegative then .gt else .lt)

end Binary64

end RunFilter
