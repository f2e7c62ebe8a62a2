import Switchboard.Json

namespace Switchboard
namespace Chat

/-!
The text inside the content of a chat message.

Content is a string or a list of parts.  A part holds text when it is a string itself or an object
of type text, the type being text unless it is given, with a string under the key text.  Reading
the texts of a content and putting other texts in their place go by one view of a part.  Changing
every text by a function is one pass over the parts, with a test of its own for what a part holds.
-/

/-- The key that holds the text of a part. -/
def textKey : Text := Text.ofString "text"

/-- The key that holds the type of a part. -/
def typeKey : Text := Text.ofString "type"

/-- Whether an object is a part of type text. -/
def isTextPart (members : Json.Members) : Bool :=
  match Json.member? members typeKey with
  | none => true
  | some (.text kind) => kind == textKey
  | some _ => false

/-- The text of a part, if the part holds one. -/
def partText? : Json -> Option Text
  | .text text => some text
  | .object members =>
      if isTextPart members then
        match Json.member? members textKey with
        | some (.text text) => some text
        | _ => none
      else none
  | _ => none

/-- The part with another text in the place of its own. -/
def withPartText (text : Text) : Json -> Json
  | .object members => .object (Json.setMember members textKey (.text text))
  | _ => .text text

/-- The texts of a content in order. -/
def texts : Json -> List Text
  | .text text => [text]
  | .array parts => parts.filterMap partText?
  | _ => []

/-- The whole text of a content: its texts, one to a line. -/
def contentText (content : Json) : Text := Text.joinWith ['\n'] (texts content)

/-- Parts with their texts replaced in order by the given ones. -/
def replaceParts : List Json -> List Text -> List Json
  | [], _ => []
  | parts, [] => parts
  | part :: parts, text :: rest =>
      match partText? part with
      | some _ => withPartText text part :: replaceParts parts rest
      | none => part :: replaceParts parts (text :: rest)

/-- A content with its texts replaced in order by the given ones. -/
def replaceTexts : Json -> List Text -> Json
  | .text _, text :: _ => .text text
  | .array parts, replacements => .array (replaceParts parts replacements)
  | content, _ => content

/-- A part with its text changed by a function; a part that holds none stays as it is. -/
def mapPart (change : Text -> Text) : Json -> Json
  | .text text => .text (change text)
  | .object members =>
      match (Json.member? members typeKey).getD (.text textKey), Json.member? members textKey with
      | .text kind, some (.text text) =>
          if kind = textKey then .object (Json.setMember members textKey (.text (change text)))
          else .object members
      | _, _ => .object members
  | part => part

/-- A content with every text changed by a function. -/
def mapTexts (change : Text -> Text) : Json -> Json
  | .text text => .text (change text)
  | .array parts => .array (parts.map (mapPart change))
  | content => content

end Chat
end Switchboard
