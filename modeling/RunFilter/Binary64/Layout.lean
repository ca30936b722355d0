import RunFilter.Binary64.Decimal

/-!
# How numbers are written

A layout says which exponents are written in place, whether a whole number keeps `.0`, what stands
for infinity and NaN, and which digits are taken when two are equally near. Two outputs have a
layout of their own: messages, and the JSON of a compiled query.
-/

set_option autoImplicit false

namespace RunFilter

/-- The decisions of one output about its numbers. -/
structure Layout where
  /-- Which of two equally near shortest decimals is written. -/
  tie : Tie
  /-- The least and greatest power of the leading digit that is written without an exponent;
  every power, if there are no bounds. -/
  inPlace : Option (Int × Int)
  /-- Whether a whole number written in place ends in `.0`. -/
  pointZero : Bool
  nan : String
  infinity : String
  negativeInfinity : String

/-- Messages write every number in place and whole numbers without a point; a tie goes away from
zero. -/
def Layout.message : Layout where
  tie := .up
  inPlace := none
  pointZero := false
  nan := "NaN"
  infinity := "inf"
  negativeInfinity := "-inf"

/-- JSON writes leading digits from `10 ^ -5` to `10 ^ 15` in place, keeps the point, and has no
word for what is not finite; a tie goes to the even digit. -/
def Layout.json : Layout where
  tie := .even
  inPlace := some (-5, 15)
  pointZero := true
  nan := "null"
  infinity := "null"
  negativeInfinity := "null"

namespace Decimal

/-- The decimal digits. -/
def digitChars (x : Decimal) : List Char := Nat.toDigits 10 x.digits

/-- The power of ten at the leading digit. -/
def leading (x : Decimal) : Int := x.exponent + x.digitChars.length - 1

/-- The decimal without an exponent: zeros fill the places up to the point. -/
def inPlace (x : Decimal) (pointZero : Bool) : List Char :=
  let digits := x.digitChars
  if 0 ≤ x.exponent then
    digits ++ List.replicate x.exponent.toNat '0' ++ if pointZero then ['.', '0'] else []
  else
    let places := (-x.exponent).toNat
    if places < digits.length then
      digits.take (digits.length - places) ++ '.' :: digits.drop (digits.length - places)
    else ['0', '.'] ++ List.replicate (places - digits.length) '0' ++ digits

/-- The decimal with a point behind its first digit and the power of that digit. -/
def withExponent (x : Decimal) : List Char :=
  let mantissa := match x.digitChars with
    | first :: second :: rest => first :: '.' :: second :: rest
    | digits => digits
  let sign := if x.leading < 0 then '-' else '+'
  mantissa ++ 'e' :: sign :: Nat.toDigits 10 x.leading.natAbs

end Decimal

namespace Layout

/-- Whether a decimal is written without an exponent. -/
def writesInPlace (f : Layout) (x : Decimal) : Bool :=
  match f.inPlace with
  | none => true
  | some (least, greatest) => least ≤ x.leading && x.leading ≤ greatest

/-- The text of a decimal without its sign. -/
def decimal (f : Layout) (x : Decimal) : List Char :=
  if x.digits = 0 || f.writesInPlace x then x.inPlace f.pointZero else x.withExponent

/-- **The text of a number.** -/
def number (f : Layout) (x : Binary64) : String :=
  match x.magnitude with
  | .nan => f.nan
  | .infinite => if x.isNegative then f.negativeInfinity else f.infinity
  | .finite significand exponent =>
    let x' := if significand = 0 then ⟨0, 0⟩ else Binary64.shortest f.tie significand exponent
    String.ofList ((if x.isNegative then ['-'] else []) ++ f.decimal x')

end Layout

end RunFilter
