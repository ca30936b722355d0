import RunFilter.Binary64

/-!
# TOML values

The values of a TOML document. A table keeps its entries in the order in which they were written;
no two have one key.
-/

set_option autoImplicit false

namespace RunFilter.Toml

/-- A day of the calendar. -/
structure Date where
  year : Nat
  month : Nat
  day : Nat
  deriving DecidableEq, Repr

/-- A time of the day. -/
structure Time where
  hour : Nat
  minute : Nat
  second : Nat
  nanosecond : Nat
  deriving DecidableEq, Repr

/-- How far the clock of a place is ahead of universal time. -/
inductive ZoneOffset where
  /-- Written as `Z`. -/
  | universal
  | minutes (n : Int)
  deriving DecidableEq, Repr

/-- A date, a time, or both; with both, perhaps an offset. -/
structure Moment where
  date : Option Date
  time : Option Time
  offset : Option ZoneOffset
  deriving DecidableEq, Repr

/-- A value of a document. -/
inductive Value where
  | text (s : String)
  | integer (n : Int)
  | float (x : Binary64)
  | boolean (b : Bool)
  | moment (m : Moment)
  | array (items : List Value)
  | table (entries : List (String × Value))
  deriving Repr, Inhabited, BEq

/-- A number with zeros in front up to a width. -/
def padded (width n : Nat) : String :=
  let digits := Nat.toDigits 10 n
  String.ofList (List.replicate (width - digits.length) '0' ++ digits)

/-- A date in the form `1979-05-27`. -/
def Date.text (d : Date) : String :=
  padded 4 d.year ++ "-" ++ padded 2 d.month ++ "-" ++ padded 2 d.day

/-- A time in the form `07:32:00`, with as many digits of the second as are not zero at the
end. -/
def Time.text (t : Time) : String :=
  let fraction := ((padded 9 t.nanosecond).toList.reverse.dropWhile (· == '0')).reverse
  padded 2 t.hour ++ ":" ++ padded 2 t.minute ++ ":" ++ padded 2 t.second ++
    (if fraction.isEmpty then "" else "." ++ String.ofList fraction)

/-- An offset in the form `Z` or `+01:30`. -/
def ZoneOffset.text : ZoneOffset → String
  | .universal => "Z"
  | .minutes n =>
    (if n < 0 then "-" else "+") ++ padded 2 (n.natAbs / 60) ++ ":" ++ padded 2 (n.natAbs % 60)

/-- A moment with `T` between its date and its time. -/
def Moment.text (m : Moment) : String :=
  let date := m.date.elim "" Date.text
  let time := m.time.elim "" Time.text
  date ++ (if m.date.isSome && m.time.isSome then "T" else "") ++ time ++
    m.offset.elim "" ZoneOffset.text

end RunFilter.Toml
