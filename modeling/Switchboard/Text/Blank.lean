import Switchboard.Text.Basic

namespace Switchboard
namespace Text

/-!
Blank characters and trimming.

Messages, phrases and names are compared after their surrounding blanks are taken off.  The class
below is the Unicode white space together with the four information separators.
-/

/-- White space: the ASCII controls from tab to carriage return and from file separator to unit
separator, the space, the next-line control and the Unicode spaces and separators. -/
def isBlank (c : Char) : Bool :=
  let code := c.toNat
  (0x09 <= code && code <= 0x0D) || (0x1C <= code && code <= 0x20) || code == 0x85 ||
    code == 0xA0 || code == 0x1680 || (0x2000 <= code && code <= 0x200A) || code == 0x2028 ||
    code == 0x2029 || code == 0x202F || code == 0x205F || code == 0x3000

/-- The ASCII white space of patterns in ASCII mode. -/
def isAsciiBlank (c : Char) : Bool :=
  c == ' ' || (0x09 <= c.toNat && c.toNat <= 0x0D)

/-- White space as numbers in a document are trimmed: the information separators are not part
of it. -/
def isNumberBlank (c : Char) : Bool :=
  isBlank c && !(0x1C <= c.toNat && c.toNat <= 0x1F)

/-- The blanks within a line that a removed tag takes with it. -/
def isLineBlank (c : Char) : Bool := c == ' ' || c == '\t'

/-- The text without the characters of a class at its start. -/
def trimStartOf (drop : Char -> Bool) (text : Text) : Text := text.dropWhile drop

/-- The text without the characters of a class at its end. -/
def trimEndOf (drop : Char -> Bool) (text : Text) : Text :=
  (text.reverse.dropWhile drop).reverse

/-- The text without blanks at its start. -/
def trimStart (text : Text) : Text := trimStartOf isBlank text

/-- The text without blanks at its end. -/
def trimEnd (text : Text) : Text := trimEndOf isBlank text

/-- The text without blanks at either end. -/
def trim (text : Text) : Text := trimEnd (trimStart text)

/-- A text of blanks only; the empty text is one. -/
def isBlankText (text : Text) : Bool := text.all isBlank

end Text
end Switchboard
