import Switchboard.Chat.Request
import Switchboard.Routing.Decision

namespace Switchboard

/-!
Routing a chat request.

The text of the last user message is decided on, and the request is passed on for the model of the
decision.  If a tag picked the tier, that message is passed on without its tags; nothing else of
the request changes.

Tags are taken out of each text of the message on its own.  Where only tags at the start count,
they are taken out of the first text that is not blank and of no other.
-/

/-- A request passed on, and the decision behind it. -/
structure Routed where
  request : Chat.Request
  decision : Decision

namespace Tag

/-- The texts of a content without their tags, `done` saying that no further tag counts. -/
def stripTexts (position : TagPosition) : Bool -> List Text -> Except RoutingFault (List Text)
  | _, [] => .ok []
  | done, text :: texts =>
      if done || Text.isBlankText text then
        match stripTexts position done texts with
        | .error fault => .error fault
        | .ok stripped => .ok (text :: stripped)
      else
        match extract position text with
        | .error fault => .error fault
        | .ok extraction =>
            match stripTexts position (position == .start) texts with
            | .error fault => .error fault
            | .ok stripped => .ok (extraction.text :: stripped)

/-- A content without the tags that count. -/
def stripContent (position : TagPosition) (content : Json) : Except RoutingFault Json :=
  match stripTexts position false (Chat.texts content) with
  | .error fault => .error fault
  | .ok texts => .ok (Chat.replaceTexts content texts)

end Tag

namespace Tables

/-- Whether a request asks for routing. -/
def isAutoRequest (tables : Tables) (request : Chat.Request) : Bool :=
  Chat.asksFor request tables.autoModel

/-- The request without the tags that picked its tier. -/
def stripRequest (tables : Tables) (request : Chat.Request) : Except RoutingFault Chat.Request :=
  match Tag.stripContent tables.tags.position (Chat.latestContent request) with
  | .error fault => .error fault
  | .ok content => .ok (Chat.withLatestContent request content)

/-- The request passed on for the model of its decision. -/
def route (tables : Tables) (request : Chat.Request) : Except RoutingFault Routed :=
  match tables.decide (Chat.latestText request) with
  | .error fault => .error fault
  | .ok decision =>
      if decision.isPicked then
        match tables.stripRequest request with
        | .error fault => .error fault
        | .ok stripped => .ok ⟨Chat.withModel stripped decision.model, decision⟩
      else .ok ⟨Chat.withModel request decision.model, decision⟩

/-- What is reported about a routed request. -/
def routedNotices (routed : Routed) : List Notice :=
  routed.decision.ruleNotices ++ [routed.decision.outcomeNotice]

end Tables
end Switchboard
