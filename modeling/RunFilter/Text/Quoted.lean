import RunFilter.Text.GraphemeExtend
import RunFilter.Text.Printable

/-!
# Quoted text in messages

A message quotes text that the user typed so that it stays on one line and every character can be
seen: quotes, backslashes and four controls have short escapes, and a character that cannot be
shown, or that would attach to the quote before it, is written as its code point.
-/

set_option autoImplicit false

namespace RunFilter.Text

/-- A code point in braces, in lower-case hexadecimal without leading zeros. -/
def codePointEscape (c : Char) : List Char :=
  ['\\', 'u', '\x7b'] ++ Nat.toDigits 16 c.toNat ++ ['\x7d']

/-- **One character inside quotes.** -/
def quoteChar (c : Char) : List Char :=
  match c with
  | '\x00' => ['\\', '0']
  | '\t' => ['\\', 't']
  | '\r' => ['\\', 'r']
  | '\n' => ['\\', 'n']
  | '\\' => ['\\', '\\']
  | '"' => ['\\', '"']
  | c =>
    if 0x20 ≤ c.toNat && c.toNat < 0x7f then [c]
    else if attaches c || !isPrintable c then codePointEscape c
    else [c]

/-- The text in double quotes. -/
def quoted (s : String) : String :=
  String.ofList ('"' :: s.toList.flatMap quoteChar ++ ['"'])

end RunFilter.Text
