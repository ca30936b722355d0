import RunFilter.Binary64.Decimal
import RunFilter.Fault
import RunFilter.Text.Ascii
import RunFilter.Word

/-!
# Numerals

A numeral is the longest text of the form `-?digits(.digits)?([eE][+-]?digits)?`. A point or an
exponent mark without a digit behind it is left for the next token. Numerals without a fraction
and without an exponent are whole numbers of 64 bits; all others are read to the nearest number of
the binary64 format.
-/

set_option autoImplicit false

namespace RunFilter

/-- The parts of a numeral, digit for digit. -/
structure Numeral where
  negative : Bool
  whole : List Char
  /-- The digits behind the point. -/
  fraction : Option (List Char)
  /-- The mark, the sign if one is written, and the digits. -/
  exponent : Option (Char × Option Char × List Char)
  deriving DecidableEq, Repr

namespace Numeral

/-- The point and the digits behind it, if a digit follows the point. -/
def scanFraction : List Char → Option (List Char) × List Char
  | '.' :: d :: cs =>
    if Text.isDigit d then
      (some (d :: cs.takeWhile Text.isDigit), cs.dropWhile Text.isDigit)
    else (none, '.' :: d :: cs)
  | cs => (none, cs)

/-- Whether a character is the sign of an exponent. -/
def isSign (c : Char) : Bool := c == '+' || c == '-'

/-- The exponent, if a digit follows its mark and sign. -/
def scanExponent : List Char → Option (Char × Option Char × List Char) × List Char
  | mark :: c :: cs =>
    if mark == 'e' || mark == 'E' then
      if Text.isDigit c then
        (some (mark, none, c :: cs.takeWhile Text.isDigit), cs.dropWhile Text.isDigit)
      else if isSign c && !(cs.takeWhile Text.isDigit).isEmpty then
        (some (mark, some c, cs.takeWhile Text.isDigit), cs.dropWhile Text.isDigit)
      else (none, mark :: c :: cs)
    else (none, mark :: c :: cs)
  | cs => (none, cs)

/-- The sign of a numeral. -/
def scanSign : List Char → Bool × List Char
  | '-' :: cs => (true, cs)
  | cs => (false, cs)

/-- **The longest numeral at the beginning of a text**, and the rest of the text. -/
def scan (cs : List Char) : Numeral × List Char :=
  let (negative, cs) := scanSign cs
  let whole := cs.takeWhile Text.isDigit
  let (fraction, cs) := scanFraction (cs.dropWhile Text.isDigit)
  let (exponent, cs) := scanExponent cs
  ({ negative, whole, fraction, exponent }, cs)

/-- The characters of a numeral. -/
def chars (n : Numeral) : List Char :=
  (if n.negative then ['-'] else []) ++ n.whole ++
    (match n.fraction with
      | some digits => '.' :: digits
      | none => []) ++
    (match n.exponent with
      | some (mark, sign, digits) => mark :: sign.toList ++ digits
      | none => [])

/-- Whether the numeral is written as a whole number. -/
def isWhole (n : Numeral) : Bool := n.fraction.isNone && n.exponent.isNone

/-- The whole number, its sign included. -/
def integer (n : Numeral) : Int :=
  let magnitude : Int := Text.digitsValue n.whole
  if n.negative then -magnitude else magnitude

/-- The power of ten that the exponent asks for. -/
def power (n : Numeral) : Int :=
  match n.exponent with
  | none => 0
  | some (_, sign, digits) =>
    let magnitude : Int := Text.digitsValue digits
    if sign = some '-' then -magnitude else magnitude

/-- The decimal that the numeral stands for, the sign aside. -/
def decimal (n : Numeral) : Decimal :=
  let places := n.fraction.getD []
  ⟨Text.digitsValue (n.whole ++ places), n.power - places.length⟩

/-- **The value of a numeral**, unless it is a whole number out of range. -/
def value (n : Numeral) : Except Fault Value :=
  if n.isWhole then
    if isWord64 n.integer then .ok (.int n.integer)
    else .error (.integerOutOfRange (String.ofList n.chars))
  else .ok (.float (Binary64.ofDecimal n.negative n.decimal))

end Numeral

end RunFilter
