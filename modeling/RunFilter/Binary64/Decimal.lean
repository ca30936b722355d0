import RunFilter.Binary64

/-!
# Decimals and the numbers nearest to them

A decimal is a natural number times a power of ten. `Binary64.ofDecimal` gives the number nearest
to a decimal, `Binary64.shortest` the decimal with the fewest digits among those that are nearest
to no other number, and of these the one closest to the number. Both use exact arithmetic on
natural numbers throughout.
-/

set_option autoImplicit false

namespace RunFilter

/-- The number `digits * 10 ^ exponent`. -/
structure Decimal where
  digits : Nat
  exponent : Int
  deriving DecidableEq, Repr

/-- Which of two equally near neighbours is taken. -/
inductive Tie where
  /-- The one further from zero. -/
  | up
  /-- The even one. -/
  | even
  deriving DecidableEq

/-- The quotient rounded to the nearest natural number. -/
def roundDiv (tie : Tie) (num den : Nat) : Nat :=
  let below := num / den
  let rest := num % den
  if 2 * rest < den then below
  else if den < 2 * rest then below + 1
  else match tie with
    | .up => below + 1
    | .even => below + below % 2

/-- The number of decimal digits, one for zero. -/
def digitCount (n : Nat) : Nat := (Nat.toDigits 10 n).length

/-- A fraction times an integer power of a base, as numerator and denominator. -/
def scale (base num den : Nat) (power : Int) : Nat × Nat :=
  (num * Nat.pow base power.toNat, den * Nat.pow base (-power).toNat)

namespace Binary64

/-- The exponent of the leading bit of a positive fraction. -/
def leadingBit (num den : Nat) : Int :=
  let guess : Int := (Nat.log2 num : Int) - Nat.log2 den
  let (n, d) := scale 2 num den (-guess)
  if d ≤ n then guess else guess - 1

/-- The number nearest to a positive fraction, the even one of two. The significand is cut at 53
bits, or at the last place of the smallest numbers. -/
def ofFraction (negative : Bool) (num den : Nat) : Binary64 :=
  let place := max (leadingBit num den - 52) (-1074)
  let (n, d) := scale 2 num den (-place)
  let significand := roundDiv .even n d
  if significand < hiddenBit then ofFields negative 0 significand
  else
    let exponent := (place + 1075).toNat
    if 2047 ≤ exponent || (exponent = 2046 && 2 * hiddenBit ≤ significand) then infinity negative
    else ofFields negative exponent (significand - hiddenBit)

/-- **The number nearest to a decimal.** A decimal of 311 digits or more before the point is beyond
every number, and one with 330 zeros behind the point is nearest to zero. -/
def ofDecimal (negative : Bool) (x : Decimal) : Binary64 :=
  let point := x.exponent + digitCount x.digits
  if x.digits = 0 then zero negative
  else if 310 < point then infinity negative
  else if point < -330 then zero negative
  else
    let (num, den) := scale 10 x.digits 1 x.exponent
    ofFraction negative num den

/-- The power of ten at the leading digit of a positive fraction. -/
def leadingDigit (num den : Nat) : Int :=
  if den ≤ num then (digitCount (num / den) : Int) - 1
  else
    let shift := digitCount den - digitCount num
    if den ≤ num * Nat.pow 10 shift then -(shift : Int) else -(shift : Int) - 1

/-- The decimals that are nearest to one number, as the open or closed interval between two
fractions around it; all three have one denominator. -/
structure Basin where
  low : Nat
  value : Nat
  high : Nat
  den : Nat
  /-- Whether the ends belong to it: halfway goes to the even significand. -/
  closed : Bool

/-- The basin of `significand * 2 ^ exponent`. Below a power of two the numbers are twice as
dense. -/
def basin (significand : Nat) (exponent : Int) : Basin :=
  let dense := significand = hiddenBit && -1074 < exponent
  let low := if dense then 4 * significand - 1 else 4 * significand - 2
  let (value, den) := scale 2 (4 * significand) 1 (exponent - 2)
  let (low, _) := scale 2 low 1 (exponent - 2)
  let (high, _) := scale 2 (4 * significand + 2) 1 (exponent - 2)
  { low, value, high, den, closed := significand % 2 = 0 }

/-- Whether the fraction `num / den` lies in the basin, for the denominator of the basin. -/
def Basin.holds (b : Basin) (num : Nat) : Bool :=
  if b.closed then b.low ≤ num && num ≤ b.high else b.low < num && num < b.high

/-- The basin with all its fractions divided by a power of ten. -/
def Basin.divided (b : Basin) (power : Int) : Basin :=
  let up := Nat.pow 10 (-power).toNat
  { b with low := b.low * up, value := b.value * up, high := b.high * up,
           den := b.den * Nat.pow 10 power.toNat }

/-- The multiple of a power of ten that lies in the basin, the nearer one to the value if both of
its neighbours do. -/
def Basin.onGrid (tie : Tie) (b : Basin) (power : Int) : Option Decimal :=
  let b := b.divided power
  let below := b.value / b.den
  match b.holds (below * b.den), b.holds ((below + 1) * b.den) with
  | true, true => some ⟨roundDiv tie b.value b.den, power⟩
  | true, false => some ⟨below, power⟩
  | false, true => some ⟨below + 1, power⟩
  | false, false => none

/-- The decimal without zeros at its end. -/
def trimZeros (fuel : Nat) (x : Decimal) : Decimal :=
  match fuel with
  | 0 => x
  | fuel + 1 =>
    if x.digits % 10 = 0 && x.digits ≠ 0 then trimZeros fuel ⟨x.digits / 10, x.exponent + 1⟩ else x

/-- **The shortest decimal of a positive number**: the coarsest of the seventeen grids below its
leading digit that has a multiple in the basin. -/
def shortest (tie : Tie) (significand : Nat) (exponent : Int) : Decimal :=
  let b := basin significand exponent
  let top := leadingDigit b.value b.den
  match (List.range 17).findSome? fun (n : Nat) => b.onGrid tie (top - n) with
  | some x => trimZeros 17 x
  | none => ⟨0, 0⟩

end Binary64

end RunFilter
