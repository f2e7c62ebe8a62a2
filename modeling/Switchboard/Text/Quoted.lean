import Switchboard.Text.Printable

namespace Switchboard
namespace Text

/-!
Quoted text, as it stands in messages.

A text is written between apostrophes, or between quotation marks when it holds an apostrophe and
no quotation mark.  The quote in use and the backslash are escaped by a backslash; tab, line feed
and carriage return have letters of their own, and any other character without a visible form is
written by its code point in two, four or eight hexadecimal digits.
-/

/-- One lower-case hexadecimal digit. -/
def hexDigit (n : Nat) : Char :=
  if n < 10 then Char.ofNat (0x30 + n) else Char.ofNat (0x57 + n)

/-- The lowest hexadecimal digits of a number, a given count of them. -/
def hexDigits : Nat -> Nat -> Text
  | 0, _ => []
  | count + 1, n => hexDigits count (n / 16) ++ [hexDigit (n % 16)]

/-- How one character stands between the given quotes. -/
def quotedChar (quote c : Char) : Text :=
  if c = quote || c = '\\' then ['\\', c]
  else if c = '\t' then ['\\', 't']
  else if c = '\n' then ['\\', 'n']
  else if c = '\r' then ['\\', 'r']
  else if isPrintable c then [c]
  else if c.toNat < 0x100 then '\\' :: 'x' :: hexDigits 2 c.toNat
  else if c.toNat < 0x10000 then '\\' :: 'u' :: hexDigits 4 c.toNat
  else '\\' :: 'U' :: hexDigits 8 c.toNat

/-- The mark that a text is quoted with. -/
def quoteMark (text : Text) : Char :=
  if text.contains '\'' && !text.contains '"' then '"' else '\''

/-- The text between quotes. -/
def quoted (text : Text) : Text :=
  let mark := quoteMark text
  mark :: text.flatMap (quotedChar mark) ++ [mark]

end Text
end Switchboard
