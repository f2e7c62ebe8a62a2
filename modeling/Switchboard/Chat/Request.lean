import Switchboard.Chat.Content

namespace Switchboard
namespace Chat

/-!
Chat requests, and the message that is routed.

Only the last message of the role user counts.  A request without messages, or without such a
message, is a request whose text is empty.
-/

/-- A chat request: the members of an object. -/
abbrev Request := Json.Members

/-- The key of the messages of a request. -/
def messagesKey : Text := Text.ofString "messages"

/-- The key of the content of a message. -/
def contentKey : Text := Text.ofString "content"

/-- The key of the model of a request. -/
def modelKey : Text := Text.ofString "model"

/-- Whether a message is one of the role user. -/
def isUserMessage : Json -> Bool
  | .object members =>
      match Json.member? members (Text.ofString "role") with
      | some (.text role) => role == Text.ofString "user"
      | _ => false
  | _ => false

/-- The place of the last message of the role user. -/
def lastUser? : List Json -> Option Nat
  | [] => none
  | message :: messages =>
      match lastUser? messages with
      | some index => some (index + 1)
      | none => if isUserMessage message then some 0 else none

/-- The messages of a request. -/
def messages (request : Request) : List Json :=
  match Json.member? request messagesKey with
  | some (.array items) => items
  | _ => []

/-- The place of the last user message of a request. -/
def latestUser? (request : Request) : Option Nat := lastUser? (messages request)

/-- The content of a message, if the message has one. -/
def messageContent? : Json -> Option Json
  | .object members => Json.member? members contentKey
  | _ => none

/-- The content of the last user message; none at all counts as null. -/
def latestContent (request : Request) : Json :=
  match latestUser? request with
  | none => .null
  | some index => ((messages request)[index]?.bind messageContent?).getD .null

/-- The text that a request is routed by. -/
def latestText (request : Request) : Text := contentText (latestContent request)

/-- A message with another content. -/
def withContent (content : Json) : Json -> Json
  | .object members => .object (Json.setMember members contentKey content)
  | message => message

/-- A request whose last user message has another content. -/
def withLatestContent (request : Request) (content : Json) : Request :=
  match latestUser? request with
  | none => request
  | some index =>
      let changed := (messages request).modify index (withContent content)
      Json.setMember request messagesKey (.array changed)

/-- A request for another model. -/
def withModel (request : Request) (model : Text) : Request :=
  Json.setMember request modelKey (.text model)

/-- Whether a request names exactly the given model. -/
def asksFor (request : Request) (model : Text) : Bool :=
  match Json.member? request modelKey with
  | some (.text name) => name == model
  | _ => false

end Chat
end Switchboard
