import Switchboard.Tag.Removal

namespace Switchboard

/-!
The tier that the tags of a message pick, and the message without them.

Where tags count is a setting.  Anywhere, the leftmost tag decides and every recognisable tag is
removed.  At the start, only tags that nothing but blanks precede count: the first of them decides,
and the ones stacked behind it are removed with it.  A message without a tag that counts is
returned as it is.
-/

/-- Where in a message tags count. -/
inductive TagPosition where
  | anywhere
  | start
deriving Repr, DecidableEq, Inhabited

/-- The name of a position in documents and in output. -/
def TagPosition.name : TagPosition -> Text
  | anywhere => Text.ofString "anywhere"
  | start => Text.ofString "prefix"

/-- The position of a name. -/
def TagPosition.ofName? (name : Text) : Option TagPosition :=
  [anywhere, start].find? fun position => position.name == name

/-- What a message holds: the tier its tags pick, if any, and the message without those tags. -/
structure Extraction where
  tier : Option Tier
  text : Text
deriving Repr, DecidableEq

namespace Tag

/-- A text after at most a given number of tags at its start, and the blanks behind each. -/
def dropStacked : Nat -> Text -> Text
  | 0, text => text
  | count + 1, text =>
      match read? text with
      | none => text
      | some written => dropStacked count (Text.trimStart (text.drop (width written)))

/-- Extraction where tags count anywhere. -/
def extractAnywhere (text : Text) : Except RoutingFault Extraction :=
  match findAll text with
  | [] => .ok ⟨none, text⟩
  | found :: _ =>
      match tier found.written with
      | .ok tier => .ok ⟨some tier, removeAll text⟩
      | .error fault => .error fault

/-- Extraction where only tags at the start count. -/
def extractStart (text : Text) : Except RoutingFault Extraction :=
  match read? (Text.trimStart text) with
  | none => .ok ⟨none, text⟩
  | some written =>
      match tier written with
      | .ok tier =>
          .ok ⟨some tier, Text.trim (dropStacked text.length (Text.trimStart text))⟩
      | .error fault => .error fault

/-- The tier that the tags of a text pick and the text without them. -/
def extract : TagPosition -> Text -> Except RoutingFault Extraction
  | .anywhere, text => extractAnywhere text
  | .start, text => extractStart text

end Tag
end Switchboard
