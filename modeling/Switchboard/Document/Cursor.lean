import Switchboard.Text.Basic

namespace Switchboard
namespace Document

/-!
Places in the text of a document.

Lines end at line feeds, next-line marks and the two separators for lines and paragraphs.  The
column counts the characters of a line, a byte order mark counting as none.  Only blanks and not
tabs can stand between two parts of a line.
-/

/-- Whether a character ends a line. -/
def isLineBreak (c : Char) : Bool :=
  c = '\n' || c.toNat = 0x85 || c.toNat = 0x2028 || c.toNat = 0x2029

/-- Whether a place has reached the end of its line or of the text. -/
def isLineEnd : Option Char -> Bool
  | none => true
  | some c => isLineBreak c

/-- Whether a place has a blank, a tab or the end of its line or of the text. -/
def isGap : Option Char -> Bool
  | none => true
  | some c => c = ' ' || c = '\t' || isLineBreak c

/-- Whether a place has a blank or the end of its line or of the text, and no tab. -/
def isBlankOrEnd : Option Char -> Bool
  | none => true
  | some c => c = ' ' || isLineBreak c

/-- A place in a text, and the text from there on. -/
structure Cursor where
  rest : Text
  index : Nat := 0
  line : Nat := 0
  column : Nat := 0

namespace Cursor

/-- The character at a place. -/
def char? (place : Cursor) : Option Char := place.rest.head?

/-- The character a few steps behind a place. -/
def charAfter? (place : Cursor) (count : Nat) : Option Char := place.rest[count]?

/-- The place behind the next character. -/
def next (place : Cursor) : Cursor :=
  match place.rest with
  | [] => place
  | c :: rest =>
      if isLineBreak c then ⟨rest, place.index + 1, place.line + 1, 0⟩
      else
        let width := if c.toNat = 0xFEFF then 0 else 1
        ⟨rest, place.index + 1, place.line, place.column + width⟩

/-- The place behind a count of characters. -/
def skip : Nat -> Cursor -> Cursor
  | 0, place => place
  | count + 1, place => skip count place.next

/-- The longest run of characters of a kind from a place on. -/
def run (place : Cursor) (holds : Char -> Bool) : Text := place.rest.takeWhile holds

/-- The place behind the longest run of characters of a kind. -/
def skipWhile (place : Cursor) (holds : Char -> Bool) : Cursor :=
  place.skip (place.run holds).length

/-- The place behind blanks. -/
def skipBlanks (place : Cursor) : Cursor := place.skipWhile (· == ' ')

/-- The place behind blanks, as long as the column is less than a given one. -/
def skipBlanksTo (column : Nat) (place : Cursor) : Cursor :=
  place.skip (min (place.run (· == ' ')).length (column - place.column))

/-- The place behind a comment, if there is one. -/
def skipComment (place : Cursor) : Cursor :=
  if place.char? = some '#' then place.skipWhile (!isLineBreak ·) else place

/-- The line break at a place, and the place behind it. The line separator and the paragraph
separator stand for themselves, and all other line breaks for a line feed. -/
def lineBreak? (place : Cursor) : Option (Char × Cursor) :=
  match place.char? with
  | some c =>
      if isLineBreak c then
        some (if c.toNat = 0x85 then '\n' else c, place.next)
      else none
  | none => none

/-- Whether three marks of a kind, with a gap behind them, follow. -/
def isAtMarks (place : Cursor) (mark : Char) : Bool :=
  place.rest.take 3 == [mark, mark, mark] && isGap (place.charAfter? 3)

/-- Whether the marks between two documents follow. -/
def isAtSeparator (place : Cursor) : Bool := place.isAtMarks '-' || place.isAtMarks '.'

end Cursor
end Document
end Switchboard
