import Switchboard.Text.Blank
import Switchboard.Tag.Basic

namespace Switchboard

/-!
Taking spans out of a text without leaving marks.

The pieces between the spans are joined from left to right.  Spaces and tabs at a seam go, and one
space comes back when the seam would otherwise run two words together; a line break that stands at
a seam stays.  The result is trimmed.
-/

namespace Tag

/-- The pieces of a text that lie between spans, the first one from a given position on. -/
def piecesFrom (cursor : Nat) (text : Text) : List Span -> List Text
  | [] => [text.drop cursor]
  | span :: spans => (text.take span.start).drop cursor :: piecesFrom span.stop text spans

/-- Whether a text ends in a character that is not blank. -/
def endsInWord (text : Text) : Bool :=
  match text.getLast? with
  | some c => !Text.isBlank c
  | none => false

/-- Whether a text starts with a character that is not blank. -/
def startsInWord (text : Text) : Bool :=
  match text.head? with
  | some c => !Text.isBlank c
  | none => false

/-- Two neighbouring pieces joined: one space separates what the span used to separate. -/
def join (left right : Text) : Text :=
  let left := Text.trimEndOf Text.isLineBlank left
  let right := Text.trimStartOf Text.isLineBlank right
  if endsInWord left && startsInWord right then left ++ ' ' :: right else left ++ right

/-- All pieces joined from left to right. -/
def joinAll : List Text -> Text
  | [] => []
  | piece :: pieces => pieces.foldl join piece

/-- A text without the given spans, which are ascending and disjoint. -/
def removeSpans (text : Text) (spans : List Span) : Text :=
  Text.trim (joinAll (piecesFrom 0 text spans))

/-- A text without the tags found in it. Tags next to them may be recognisable only now. -/
def removeFound (text : Text) : Text := removeSpans text ((findAll text).map (·.span))

/-- At most a given number of rounds of removal; a round happens only while there is a tag. -/
def removeRounds : Nat -> Text -> Text
  | 0, text => text
  | rounds + 1, text =>
      if (findAll text).isEmpty then text else removeRounds rounds (removeFound text)

/-- A text without any recognisable tag. Each round shortens the text, so as many rounds as there
are characters are enough. -/
def removeAll (text : Text) : Text := removeRounds text.length text

end Tag
end Switchboard
