import Switchboard.Text.Case
import Switchboard.Text.Word
import Switchboard.Routing.Fault
import Switchboard.Tier

namespace Switchboard

/-!
Recognising tags in a message.

A tag is one of four words between brackets, read without regard to letter case.  A tag right
after a word character or a closing bracket is an index expression and is left alone, which is
why the second of two adjacent tags becomes recognisable only once the first one is gone.

Reading a tag and naming its tier are two steps.  Letters match by `Text.sameLetter`, which knows
more pairs than lower-casing does, so a recognised tag may have no alias.
-/

namespace Tag

/-- The words a tag may hold, in the order in which they are tried. -/
def words : List Text :=
  [Text.ofString "low", Text.ofString "med", Text.ofString "medium", Text.ofString "high"]

/-- The beginning of a text that spells a word without regard to letter case, and the text after
it. -/
def spell? : Text -> Text -> Option (Text × Text)
  | [], text => some ([], text)
  | _ :: _, [] => none
  | w :: word, c :: text =>
      if Text.sameLetter w c then
        (spell? word text).map fun parts => (c :: parts.1, parts.2)
      else none

/-- The word of a tag as it is written, when the text goes on with that word and a closing
bracket. -/
def closed? (word text : Text) : Option Text :=
  match spell? word text with
  | some (written, ']' :: _) => some written
  | _ => none

/-- The word, as it is written, of the tag that starts a text. -/
def read? : Text -> Option Text
  | '[' :: text => words.findSome? fun word => closed? word text
  | _ => none

/-- The count of characters of a tag with the given word: the word and two brackets. -/
def width (written : Text) : Nat := written.length + 2

/-- Whether a bracket right after this character starts an index expression and no tag. -/
def glues (c : Char) : Bool := Text.isWord c || c == ']'

/-- The tier of a recognised tag. -/
def tier (written : Text) : Except RoutingFault Tier :=
  match Tier.ofAlias? (Text.lower written) with
  | some tier => .ok tier
  | none => .error (.unknownTag (Text.lower written))

/-- The characters of a text from `start` up to, not including, `stop`. -/
structure Span where
  start : Nat
  stop : Nat
deriving Repr, DecidableEq

/-- A tag found in a text. -/
structure Found where
  span : Span
  /-- The word between the brackets, as it is written. -/
  written : Text
deriving Repr, DecidableEq

/-- The tags of a text that starts at a position, given whether the character before it glues
and how many characters still belong to the tag found last. -/
def scan (position : Nat) (glued : Bool) (inside : Nat) : Text -> List Found
  | [] => []
  | c :: text =>
      match inside with
      | left + 1 => scan (position + 1) (glues c) left text
      | 0 =>
          match if glued then none else read? (c :: text) with
          | none => scan (position + 1) (glues c) 0 text
          | some written =>
              ⟨⟨position, position + width written⟩, written⟩ ::
                scan (position + 1) (glues c) (width written - 1) text

/-- The tags of a text from left to right. -/
def findAll (text : Text) : List Found := scan 0 false 0 text

end Tag
end Switchboard
