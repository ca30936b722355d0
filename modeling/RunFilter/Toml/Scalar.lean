import RunFilter.Binary64.Decimal
import RunFilter.Text.Ascii
import RunFilter.Toml.Value
import RunFilter.Word

/-!
# TOML scalars

Texts, numbers, truth values and moments at the beginning of a list of characters. Each reader
gives the value and the characters behind it; what may follow a value is decided where it stands.
-/

set_option autoImplicit false

namespace RunFilter.Toml

/-- A reader takes something from the beginning of a text. -/
abbrev Reader (α : Type) := List Char → Option (α × List Char)

/-- Whether a character may stand in a comment or a text as itself: no control but the tab. -/
def isPlain (c : Char) : Bool := c == '\t' || (0x20 ≤ c.toNat && c.toNat != 0x7f)

/-- A blank between the parts of a line. -/
def isGap (c : Char) : Bool := c == ' ' || c == '\t'

/-- The text without the blanks in front. -/
def skipGaps (cs : List Char) : List Char := cs.dropWhile isGap

/-- What follows a line break. -/
def newline? : List Char → Option (List Char)
  | '\n' :: cs => some cs
  | '\r' :: '\n' :: cs => some cs
  | _ => none

/-! ## Texts -/

/-- The character of a code point in `count` hexadecimal digits. -/
def codePoint (count : Nat) : Reader Char := fun cs => do
  let digits := cs.take count
  if digits.length < count then none
  else
    let c ← Text.character? (← Text.number? 16 digits)
    some (c, cs.drop count)

/-- The character of an escape, behind its backslash. -/
def escape : Reader Char
  | 'b' :: cs => some ('\x08', cs)
  | 't' :: cs => some ('\t', cs)
  | 'n' :: cs => some ('\n', cs)
  | 'f' :: cs => some ('\x0c', cs)
  | 'r' :: cs => some ('\r', cs)
  | '"' :: cs => some ('"', cs)
  | '\\' :: cs => some ('\\', cs)
  | 'u' :: cs => codePoint 4 cs
  | 'U' :: cs => codePoint 8 cs
  | _ => none

/-- A text of one line behind its opening quote; escapes have a meaning if `escapes` says so. -/
def lineBody (q : Char) (escapes : Bool) : Nat → Reader (List Char)
  | 0, _ => none
  | fuel + 1, cs =>
    match cs with
    | [] => none
    | c :: rest =>
      if c == q then some ([], rest)
      else if c == '\\' && escapes then do
        let (e, rest) ← escape rest
        let (body, rest) ← lineBody q escapes fuel rest
        some (e :: body, rest)
      else if isPlain c then do
        let (body, rest) ← lineBody q escapes fuel rest
        some (c :: body, rest)
      else none

/-- What follows a backslash at the end of a line: all blanks and line breaks are skipped. -/
def joinedLine? (cs : List Char) : Option (List Char) := do
  let cs ← newline? (skipGaps cs)
  let rec skip : Nat → List Char → List Char
    | 0, cs => cs
    | fuel + 1, cs =>
      match newline? (skipGaps cs) with
      | some cs => skip fuel cs
      | none => skipGaps cs
  some (skip cs.length cs)

/-- A text of several lines behind its opening quotes. Three quotes end it; one or two more before
them belong to the text. -/
def blockBody (q : Char) (escapes : Bool) : Nat → Reader (List Char)
  | 0, _ => none
  | fuel + 1, cs =>
    let more (front : List Char) (rest : List Char) : Option (List Char × List Char) := do
      let (body, rest) ← blockBody q escapes fuel rest
      some (front ++ body, rest)
    match cs with
    | [] => none
    | c :: rest =>
      if c == q then
        let quotes := (cs.takeWhile (· == q)).length
        if quotes < 3 then more [c] rest
        else
          let kept := min (quotes - 3) 2
          some (List.replicate kept q, cs.drop (kept + 3))
      else if let some rest := newline? cs then more ['\n'] rest
      else if c == '\\' && escapes then
        match joinedLine? rest with
        | some rest => more [] rest
        | none => do
          let (e, rest) ← escape rest
          more [e] rest
      else if isPlain c then more [c] rest
      else none

/-- Whether a text begins with three quotes. -/
def opensBlock (q : Char) (cs : List Char) : Bool := [q, q, q].isPrefixOf cs

/-- **A text of one line in quotes.** -/
def lineText : Reader String
  | c :: rest => do
    if c == '"' || c == '\x27' then
      let (body, rest) ← lineBody c (c == '"') (rest.length + 1) rest
      some (String.ofList body, rest)
    else none
  | [] => none

/-- **A text in quotes**, of one line or of several. A line break behind the opening quotes does not
belong to the text. -/
def text : Reader String
  | c :: rest =>
    if opensBlock c (c :: rest) then do
      let rest := rest.drop 2
      let rest := (newline? rest).getD rest
      let (body, rest) ← blockBody c (c == '"') (rest.length + 1) rest
      some (String.ofList body, rest)
    else lineText (c :: rest)
  | [] => none

/-! ## Numbers -/

/-- Digits with single underscores between them. -/
def digitRun (isDigit : Char → Bool) : Reader (List Char)
  | c :: cs =>
    if isDigit c then
      let rec more : List Char → List Char × List Char
        | '_' :: d :: cs =>
          if isDigit d then
            let (ds, rest) := more cs
            (d :: ds, rest)
          else ([], '_' :: d :: cs)
        | d :: cs =>
          if isDigit d then
            let (ds, rest) := more cs
            (d :: ds, rest)
          else ([], d :: cs)
        | [] => ([], [])
      let (ds, rest) := more cs
      some (c :: ds, rest)
    else none
  | [] => none

/-- A sign, if one is written: whether it is a minus sign. -/
def sign : List Char → Bool × List Char
  | '-' :: cs => (true, cs)
  | '+' :: cs => (false, cs)
  | cs => (false, cs)

/-- The digits of a decimal number: a zero alone, or a run that begins with another digit. -/
def wholeDigits : Reader (List Char)
  | '0' :: cs => some (['0'], cs)
  | cs => digitRun Text.isDigit cs

/-- A number in a base other than ten, behind its mark. -/
def based (base : Nat) : Reader Nat := fun cs => do
  let (digits, rest) ← digitRun (fun c => (Text.number? base [c]).isSome) cs
  some (← Text.number? base digits, rest)

/-- **A whole number**, decimal with a sign or in base 2, 8 or 16 without. -/
def integer : Reader Int := fun cs => do
  let (n, rest) ← match cs with
    | '0' :: 'x' :: cs => (based 16 cs).map fun (n, rest) => ((n : Int), rest)
    | '0' :: 'o' :: cs => (based 8 cs).map fun (n, rest) => ((n : Int), rest)
    | '0' :: 'b' :: cs => (based 2 cs).map fun (n, rest) => ((n : Int), rest)
    | cs => do
      let (negative, cs) := sign cs
      let (digits, rest) ← wholeDigits cs
      let n : Int := Text.digitsValue digits
      some (if negative then -n else n, rest)
  if isWord64 n then some (n, rest) else none

/-- The power of ten behind a mark. -/
def exponent : Reader Int
  | c :: cs => do
    if c == 'e' || c == 'E' then
      let (negative, cs) := sign cs
      let (digits, rest) ← digitRun Text.isDigit cs
      let n : Int := Text.digitsValue digits
      some (if negative then -n else n, rest)
    else none
  | [] => none

/-- The digits behind a point. -/
def fraction : Reader (List Char)
  | '.' :: cs => digitRun Text.isDigit cs
  | _ => none

/-- **A number with a fraction or an exponent, infinity or NaN.** A decimal too large for the
format is none. -/
def float : Reader Binary64 := fun cs => do
  let (negative, cs) := sign cs
  match cs with
  | 'i' :: 'n' :: 'f' :: rest => some (.infinity negative, rest)
  | 'n' :: 'a' :: 'n' :: rest => some (.ofFields negative 2047 (Binary64.hiddenBit / 2), rest)
  | cs =>
    let (whole, cs) ← wholeDigits cs
    let (places, cs, pointed) := match fraction cs with
      | some (places, cs) => (places, cs, true)
      | none => ([], cs, false)
    let (power, cs, marked) := match exponent cs with
      | some (power, cs) => (power, cs, true)
      | none => (0, cs, false)
    let x := Binary64.ofDecimal negative ⟨Text.digitsValue (whole ++ places), power - places.length⟩
    if (pointed || marked) && x != .infinity negative then some (x, cs) else none

/-! ## Moments -/

/-- A number of exactly `count` decimal digits between two bounds. -/
def field (count low high : Nat) : Reader Nat := fun cs =>
  let digits := cs.take count
  let n := Text.digitsValue digits
  if digits.length = count && digits.all Text.isDigit && low ≤ n && n ≤ high then
    some (n, cs.drop count)
  else none

/-- What follows a given character. -/
def after (c : Char) : List Char → Option (List Char)
  | d :: cs => if c = d then some cs else none
  | [] => none

/-- The number of days of a month. -/
def daysIn (year month : Nat) : Nat :=
  if month = 2 then
    if year % 4 = 0 && (year % 100 ≠ 0 || year % 400 = 0) then 29 else 28
  else if month = 4 || month = 6 || month = 9 || month = 11 then 30
  else 31

/-- A date. -/
def date : Reader Date := fun cs => do
  let (year, cs) ← field 4 0 9999 cs
  let (month, cs) ← field 2 1 12 (← after '-' cs)
  let (day, cs) ← field 2 1 (daysIn year month) (← after '-' cs)
  some (⟨year, month, day⟩, cs)

/-- The part of a second behind its point, to nine digits. -/
def secondFraction (cs : List Char) : Nat × List Char :=
  match cs with
  | '.' :: rest =>
    let digits := rest.takeWhile Text.isDigit
    if digits.isEmpty then (0, cs)
    else
      let kept := digits.take 9
      (Text.digitsValue kept * Nat.pow 10 (9 - kept.length), rest.dropWhile Text.isDigit)
  | _ => (0, cs)

/-- A time. -/
def time : Reader Time := fun cs => do
  let (hour, cs) ← field 2 0 23 cs
  let (minute, cs) ← field 2 0 59 (← after ':' cs)
  let (second, cs) ← field 2 0 60 (← after ':' cs)
  let (nanosecond, cs) := secondFraction cs
  some (⟨hour, minute, second, nanosecond⟩, cs)

/-- An offset. -/
def zoneOffset : Reader ZoneOffset
  | c :: cs => do
    if c == 'Z' || c == 'z' then some (.universal, cs)
    else if c == '+' || c == '-' then
      let (hour, cs) ← field 2 0 23 cs
      let (minute, cs) ← field 2 0 59 (← after ':' cs)
      let n : Int := hour * 60 + minute
      some (.minutes (if c == '-' then -n else n), cs)
    else none
  | [] => none

/-- A time behind a date and its separator. -/
def timeOfDate : Reader Time
  | c :: cs => if c == 'T' || c == 't' || c == ' ' then time cs else none
  | [] => none

/-- **A moment**: a date with or without a time, or a time alone. -/
def moment : Reader Moment := fun cs =>
  match date cs with
  | some (d, cs) =>
    match timeOfDate cs with
    | some (t, cs) =>
      match zoneOffset cs with
      | some (z, cs) => some (⟨some d, some t, some z⟩, cs)
      | none => some (⟨some d, some t, none⟩, cs)
    | none => some (⟨some d, none, none⟩, cs)
  | none => (time cs).map fun (t, cs) => (⟨none, some t, none⟩, cs)

/-! ## Scalars -/

/-- Whether a number or a moment begins with a character. -/
def startsNumber (c : Char) : Bool := Text.isDigit c || c == '+' || c == '-'

/-- **A value that is neither an array nor a table.** -/
def scalar : Reader Value
  | [] => none
  | c :: cs =>
    if c == '"' || c == '\x27' then (text (c :: cs)).map fun (s, rest) => (.text s, rest)
    else if startsNumber c then
      match moment (c :: cs), float (c :: cs) with
      | some (m, rest), _ => some (.moment m, rest)
      | none, some (x, rest) => some (.float x, rest)
      | none, none => (integer (c :: cs)).map fun (n, rest) => (.integer n, rest)
    else match c :: cs with
      | 't' :: 'r' :: 'u' :: 'e' :: rest => some (.boolean true, rest)
      | 'f' :: 'a' :: 'l' :: 's' :: 'e' :: rest => some (.boolean false, rest)
      | 'i' :: _ | 'n' :: _ => (float (c :: cs)).map fun (x, rest) => (.float x, rest)
      | _ => none

end RunFilter.Toml
