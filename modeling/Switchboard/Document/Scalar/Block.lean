import Switchboard.Document.Fault
import Switchboard.Document.Cursor

namespace Switchboard
namespace Document

/-!
Block scalars: indented lines of text.

A mark says whether line breaks are kept or folded into blanks, and may be followed by the count of
blanks that the text is indented by and by what happens to the line breaks at its end: one is kept
unless the mark says that all or none are.  Without a count, the first line that is not empty sets
the indentation.  Folding leaves the breaks around lines that start with a blank or a tab.
-/

/-- What happens to the line breaks at the end of a block scalar. -/
inductive Ending where
  | one
  | all
  | none
deriving Repr, DecidableEq

/-- The head of a block scalar. -/
structure BlockHead where
  ending : Ending
  /-- The indentation, relative to what is around the scalar. -/
  indentation : Option Nat

/-- What a mark says about the line breaks at the end. -/
def endingOf? : Option Char -> Option Ending
  | some '+' => some .all
  | some '-' => some .none
  | _ => Option.none

/-- The digit at a place. -/
def digitAt? (place : Cursor) : Option Nat :=
  match place.char? with
  | some c => if c.isDigit then some (c.toNat - '0'.toNat) else Option.none
  | Option.none => Option.none

/-- The head of a block scalar, given the place behind its mark. -/
def blockHead (place : Cursor) : Except Fault (BlockHead × Cursor) :=
  let early := endingOf? place.char?
  let place := if early.isSome then place.next else place
  let indentation := digitAt? place
  let place := if indentation.isSome then place.next else place
  let late := if early.isNone && indentation.isSome then endingOf? place.char? else Option.none
  let place := if late.isSome then place.next else place
  if indentation = some 0 || !isBlankOrEnd place.char? then .error .malformed
  else
    let place := place.skipBlanks.skipComment
    match place.lineBreak? with
    | some (_, place) => .ok (⟨(early.or late).getD .one, indentation⟩, place)
    | Option.none =>
        if place.char?.isNone then .ok (⟨(early.or late).getD .one, indentation⟩, place)
        else .error .malformed

/-- Empty lines and blanks in front of the first line, and the greatest column among them. -/
def leadingBreaks : Nat -> Text -> Nat -> Cursor -> Text × Nat × Cursor
  | 0, breaks, greatest, place => (breaks, greatest, place)
  | count + 1, breaks, greatest, place =>
      match place.lineBreak? with
      | some (c, place) => leadingBreaks count (breaks ++ [c]) greatest place
      | Option.none =>
          if place.char? = some ' ' then
            leadingBreaks count breaks (max greatest place.next.column) place.next
          else (breaks, greatest, place)

/-- Empty lines between the lines of a block scalar, and the place where the next line starts. -/
def innerBreaks (indentation : Nat) : Nat -> Text -> Cursor -> Text × Cursor
  | 0, breaks, place => (breaks, place)
  | count + 1, breaks, place =>
      let place := place.skipBlanksTo indentation
      match place.lineBreak? with
      | some (c, place) => innerBreaks indentation count (breaks ++ [c]) place
      | Option.none => (breaks, place)

/-- Whether a line of text starts at a place. -/
def isAtLine (indentation : Nat) (place : Cursor) : Bool :=
  place.column == indentation && place.char?.isSome

/-- Whether a place has a blank or a tab. -/
def isAtBlank (place : Cursor) : Bool := place.char? = some ' ' || place.char? = some '\t'

/-- The break between two lines as it counts. -/
def breakBetween (folds : Bool) (first : Text) (breaks : Text) (spaced : Bool) : Text :=
  if folds && first == ['\n'] && !spaced then (if breaks.isEmpty then [' '] else []) else first

/-- The lines of a block scalar from a place on, the empty lines in front of it joined to what has
been read. The line break and the empty lines at the end of the scalar are given apart. -/
def blockLines (folds : Bool) (indentation : Nat) :
    Nat -> Text -> Text -> Cursor -> Text × Text × Text × Cursor
  | 0, read, breaks, place => (read ++ breaks, [], [], place)
  | count + 1, read, breaks, place =>
      let line := place.run (!isLineBreak ·)
      let behind := place.skip line.length
      let (first, behind) := match behind.lineBreak? with
        | some (c, behind) => ([c], behind)
        | Option.none => ([], behind)
      let (between, start) := innerBreaks indentation (behind.rest.length + 1) [] behind
      let read := read ++ breaks ++ line
      if isAtLine indentation start then
        let spaced := isAtBlank place || isAtBlank start
        blockLines folds indentation count (read ++ breakBetween folds first between spaced) between
          start
      else (read, first, between, start)

/-- The block scalar at a place, given the place behind its mark and the column that the text has
to be indented to at least. -/
def blockScalar (folds : Bool) (least : Nat) (place : Cursor) : Except Fault (Text × Cursor) := do
  let (head, place) <- blockHead place
  let least := max least 1
  let (breaks, indentation, place) := match head.indentation with
    | some count =>
        let (breaks, start) := innerBreaks (least + count - 1) (place.rest.length + 1) [] place
        (breaks, least + count - 1, start)
    | Option.none =>
        let (breaks, greatest, start) := leadingBreaks (place.rest.length + 1) [] 0 place
        (breaks, max least greatest, start)
  let (text, last, trailing, place) :=
    if isAtLine indentation place then
      blockLines folds indentation (place.rest.length + 1) [] breaks place
    else ([], [], breaks, place)
  match head.ending with
  | .one => pure (text ++ last, place)
  | .all => pure (text ++ last ++ trailing, place)
  | .none => pure (text, place)

end Document
end Switchboard
