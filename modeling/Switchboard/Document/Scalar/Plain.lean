import Switchboard.Document.Cursor

namespace Switchboard
namespace Document

/-!
Plain scalars: text without quotes.

A plain scalar is a sequence of words.  A word ends at a gap and at a colon before a gap; inside
brackets it also ends at the marks that brackets use.  Words are joined by the blanks between them,
and a line break between them counts as one blank unless empty lines follow it.
-/

/-- Whether a word ends at a character, given what comes after it. -/
def endsWord (inBrackets : Bool) (c : Char) (after : Option Char) : Bool :=
  isGap (some c) ||
    (c = ':' && (isGap after ||
      (inBrackets && after.any fun d => d ∈ [',', '[', ']', '\x7b', '\x7d']))) ||
    (inBrackets && c ∈ [',', '?', '[', ']', '\x7b', '\x7d'])

/-- The word at the start of a text. -/
def plainWord (inBrackets : Bool) : Text -> Text
  | [] => []
  | c :: rest => if endsWord inBrackets c rest.head? then [] else c :: plainWord inBrackets rest

/-- What stands between two words of a plain scalar. -/
structure PlainGap where
  /-- What the gap counts as; an empty text ends the scalar. -/
  text : Text
  place : Cursor
  /-- Whether the gap goes on to another line. -/
  crossesLine : Bool

/-- Empty lines and indentation, up to marks between documents; without a text if such marks
follow. -/
def plainBreaks : Nat -> Text -> Cursor -> Option Text × Cursor
  | 0, breaks, place => (some breaks, place)
  | count + 1, breaks, place =>
      match place.lineBreak? with
      | some (c, place) =>
          if place.isAtSeparator then (none, place) else plainBreaks count (breaks ++ [c]) place
      | none =>
          if place.char? = some ' ' then plainBreaks count breaks place.next
          else (some breaks, place)

/-- A line break and the empty lines behind it as they count: a lone line feed is a blank, and in
front of empty lines it does not count. -/
def folded (first : Char) (breaks : Text) : Text :=
  if first != '\n' then first :: breaks
  else if breaks.isEmpty then [' ']
  else breaks

/-- The gap behind a word. -/
def plainGap (place : Cursor) : PlainGap :=
  let blanks := place.run (· == ' ')
  let behind := place.skipBlanks
  match behind.lineBreak? with
  | none => ⟨blanks, behind, false⟩
  | some (first, behind) =>
      if behind.isAtSeparator then ⟨[], behind, true⟩
      else
        match plainBreaks behind.rest.length [] behind with
        | (none, place) => ⟨[], place, true⟩
        | (some breaks, place) => ⟨folded first breaks, place, true⟩

/-- A plain scalar, and whether the gap behind its last word goes on to another line. -/
structure PlainScalar where
  text : Text
  place : Cursor
  crossesLine : Bool

/-- The words of a plain scalar, joined to what has been read and the gap behind it. Outside
brackets a word has to stand in at least the given column. -/
def plainWords (inBrackets : Bool) (column : Nat) : Nat -> Text -> PlainGap -> PlainScalar
  | 0, read, gap => ⟨read, gap.place, gap.crossesLine⟩
  | count + 1, read, gap =>
      let word := plainWord inBrackets gap.place.rest
      if gap.place.char? = some '#' || word.isEmpty then ⟨read, gap.place, gap.crossesLine⟩
      else
        let read := read ++ gap.text ++ word
        let gap := plainGap (gap.place.skip word.length)
        if gap.text.isEmpty || (!inBrackets && gap.place.column < column) then
          ⟨read, gap.place, gap.crossesLine⟩
        else plainWords inBrackets column count read gap

/-- The plain scalar at a place. -/
def plainScalar (inBrackets : Bool) (column : Nat) (place : Cursor) : PlainScalar :=
  plainWords inBrackets column (place.rest.length + 1) [] ⟨[], place, false⟩

end Document
end Switchboard
