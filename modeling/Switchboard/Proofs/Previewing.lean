import Switchboard.Proofs.Bypassing
import Switchboard.Proofs.Foretelling

namespace Switchboard

open Text

/-!
# A preview shows what routing does

A message can be decided on alone, which is what the command line shows, or as the content of the
last user message of a request.  The decision takes the text without its tags from one extraction.
Routing asks for the same decision and then strips the content anew, text by text, with a test for
blank texts of its own, and only if a tag has picked the tier.

For a content that is one text both ways come to the same, whatever the settings for tags: they fail
with the same fault, or give the same decision, and the text of the decision is then the content that
is passed on, at the place where the message stood.
-/

namespace Chat

section Turns

variable {request : Request} {before after : List Json} {members : Json.Members}
  (latest : LatestTurn request before members after)

include latest

theorem LatestTurn.withModel (model : Text) :
    LatestTurn (withModel request model) before members after where
  sent := by
    rw [Chat.withModel, Json.member?_setMember_of_ne request messagesKey_ne_modelKey, latest.sent]
  isUser := latest.isUser
  last := latest.last

/-- With another content the last user message stays at its place. -/
theorem LatestTurn.withLatestContent (content : Json) :
    LatestTurn (withLatestContent request content) before
      (Json.setMember members contentKey content) after where
  sent := by
    simp only [Chat.withLatestContent, latest.latestUser?_eq, latest.messages_eq]
    rw [Json.member?_setMember_self, modify_length_append]
    rfl
  isUser := by
    rw [← isUserMessage_iff]
    exact (isUserMessage_withContent content (.object members)).trans
      ((isUserMessage_iff _).mpr latest.isUser)
  last := latest.last

theorem LatestTurn.latestText_of_text {text : Text}
    (held : Json.member? members contentKey = some (.text text)) : latestText request = text := by
  rw [latestText, latest.latestContent_eq, held]
  rfl

end Turns

end Chat

/-- A text that is not blank is stripped to what extraction leaves of it. -/
theorem Tag.stripContent_text {position : TagPosition} {text : Text} {extraction : Extraction}
    (filled : isBlankText text = false) (extracted : extract position text = .ok extraction) :
    stripContent position (.text text) = .ok (.text extraction.text) := by
  have skipped : (false || isBlankText text) = false := by rw [filled]; rfl
  have single : Chat.texts (.text text) = [text] := rfl
  rw [stripContent, single, stripTexts]
  simp only [skipped, Bool.false_eq_true, if_false, extracted]
  rfl

namespace Tables

open Tag

variable {tables : Tables} {message : Text} {decision : Decision}

/-- A decision by the rules leaves the text as it is. -/
theorem text_of_rules (decided : tables.decide message = .ok decision)
    (byRules : decision.isPicked = false) : decision.text = message := by
  rw [decide_of_none ((decide_eq_decideByRules_iff decided).mp byRules), decideByRules] at decided
  split at decided
  · cases decided
  · injection decided with same
    rw [← same]

/-- A decision by a tag takes its text from an extraction, and the message is not blank. -/
theorem extract_of_picked (decided : tables.decide message = .ok decision)
    (byTag : decision.isPicked = true) : isBlankText message = false ∧
      extract tables.tags.position message = .ok ⟨some decision.tier, decision.text⟩ := by
  rcases (exists_counting?_iff decided).mp byTag with ⟨written, counts⟩
  have found := (enabled_of_counting? counts).2
  constructor
  · apply Bool.eq_false_iff.mpr
    intro blank
    refine not_hasTag_of_blank tables.tags.position blank ((hasTag_iff _ _).mpr ?_)
    rw [found]
    exact Option.some_ne_none written
  · rw [decide_of_some counts] at decided
    rw [extract_of_some found]
    cases named : tier written with
    | error fault =>
        rw [named] at decided
        cases decided
    | ok picked =>
        rw [named] at decided
        injection decided with same
        rw [← same]
        rfl

section Routing

variable {request : Chat.Request} {before after : List Json} {members : Json.Members}
  (latest : Chat.LatestTurn request before members after)
  (held : Json.member? members Chat.contentKey = some (.text message))

include latest held

/-- A request whose last user message is one text is routed by the decision on that text, and the
text of the decision is passed on in its place. -/
theorem exists_route_of_decide (decided : tables.decide message = .ok decision) :
    Exists fun routed : Routed => tables.route request = .ok routed ∧ routed.decision = decision ∧
      Exists fun turned : Json.Members => Chat.LatestTurn routed.request before turned after ∧
        Json.member? turned Chat.contentKey = some (.text decision.text) := by
  have asked := decided
  rw [← latest.latestText_of_text held] at asked
  cases picked : decision.isPicked with
  | false =>
      refine ⟨_, route_of_rules asked picked, rfl, members, latest.withModel _, ?_⟩
      rw [held, text_of_rules decided picked]
  | true =>
      rcases extract_of_picked decided picked with ⟨filled, extracted⟩
      have stripped : tables.stripRequest request =
          .ok (Chat.withLatestContent request (.text decision.text)) := by
        rw [stripRequest, latest.latestContent_eq, held, Option.getD_some,
          stripContent_text filled extracted]
      have routed := route_of_tag asked picked
      rw [stripped] at routed
      refine ⟨_, routed, rfl, _, (latest.withLatestContent _).withModel _, ?_⟩
      exact Json.member?_setMember_self members Chat.contentKey (.text decision.text)

end Routing

end Tables

namespace Command

variable [CharacterNames] [DocumentReader]

/-- A command line asks how a message is routed: the message is made of its words and is not empty,
and the path that it gives leads to the tables. -/
inductive Asks (around : Surroundings) (arguments : List Text) (tables : Tables) (message : Text) :
    Prop where
  | words {asked : Option Text} {path : Path}
      (read : ClassifyRequest.ofArguments arguments = .ok ⟨asked, message⟩)
      (filled : message.isEmpty = false) (located : around.settingsPath asked = .ok path)
      (loaded : tablesAt around path = .ok tables)

/-- Such a command line shows the decision, or breaks off with the fault of deciding. -/
theorem classify_of_asks {around : Surroundings} {arguments : List Text} {tables : Tables}
    {message : Text} (asks : Asks around arguments tables message) :
    classify around arguments = match tables.decide message with
      | .error fault => ⟨[], .error (.routing fault)⟩
      | .ok decision => ⟨decisionLines decision, .ok 0⟩ := by
  rcases asks with ⟨read, filled, located, loaded⟩
  cases decided : tables.decide message <;>
    simp [classify, read, filled, located, loaded, decided]

end Command

namespace Tables

/-- Deciding on a text and routing a request whose last user message has this text as its content
fail with the same fault, or both return with the same decision; then the content of that message is
the text of the decision.  A command line that asks for the text shows the same. -/
theorem preview_agrees_with_routing [CharacterNames] [DocumentReader] {tables : Tables}
    {request : Chat.Request}
    {before after : List Json} {members : Json.Members} {text : Text}
    (latest : Chat.LatestTurn request before members after)
    (held : Json.member? members Chat.contentKey = some (.text text)) :
    (Exists fun fault : RoutingFault =>
      tables.decide text = .error fault ∧ tables.route request = .error fault ∧
        forall (around : Surroundings) (arguments : List Text),
          Command.Asks around arguments tables text ->
            Command.classify around arguments = ⟨[], .error (.routing fault)⟩) ∨
    Exists fun routed : Routed =>
      tables.decide text = .ok routed.decision ∧ tables.route request = .ok routed ∧
        Json.member? routed.request Chat.modelKey = some (.text routed.decision.model) ∧
        (Exists fun turned : Json.Members => Chat.LatestTurn routed.request before turned after ∧
          Json.member? turned Chat.contentKey = some (.text routed.decision.text)) ∧
        forall (around : Surroundings) (arguments : List Text),
          Command.Asks around arguments tables text ->
            Command.classify around arguments = ⟨Command.decisionLines routed.decision, .ok 0⟩ := by
  cases decided : tables.decide text with
  | error fault =>
      refine Or.inl ⟨fault, rfl, ?_, ?_⟩
      · rw [route, latest.latestText_of_text held, decided]
      · intro around arguments asks
        rw [Command.classify_of_asks asks, decided]
  | ok decision =>
      rcases exists_route_of_decide latest held decided with ⟨routed, returned, same, turned⟩
      subst same
      refine Or.inr ⟨routed, rfl, returned, member?_modelKey_of_route returned, turned, ?_⟩
      intro around arguments asks
      rw [Command.classify_of_asks asks, decided]

/-- A message of the user. -/
def userTurn (text : Text) : Json.Members :=
  [(ofString "role", .text (ofString "user")), (Chat.contentKey, .text text)]

/-- A message of the user and an answer to it. -/
def answeredTurn : List Json :=
  [.object (userTurn (ofString "[low] first")),
    .object [(ofString "role", .text (ofString "assistant"))]]

/-- A request with a message of the user behind one that has been answered. -/
def answeredRequest (text : Text) : Chat.Request :=
  [(Chat.messagesKey, .array (answeredTurn ++ [.object (userTurn text)]))]

theorem latestTurn_answeredRequest (text : Text) :
    Chat.LatestTurn (answeredRequest text) answeredTurn (userTurn text) [] where
  sent := rfl
  isUser := ⟨userTurn text, rfl, rfl⟩
  last := fun _ impossible => absurd impossible List.not_mem_nil

/-- A message with a tag, shown by the command line and passed on without it. -/
theorem preview_agrees_with_routing_tagged :
    Exists fun tables : Tables => Exists fun routed : Routed =>
      Command.Asks (Command.surroundingsOf "router:\n rules: []") [ofString "[high]", ofString "hi"] tables
        (ofString "[high] hi") ∧
      tables.route (answeredRequest (ofString "[high] hi")) = .ok routed ∧
      routed.decision.tier = .top ∧ routed.decision.text = ofString "hi" ∧
      (Command.classify (Command.surroundingsOf "router:\n rules: []")
        [ofString "[high]", ofString "hi"]).output = Command.decisionLines routed.decision := by
  have loads : ((Command.tablesAt (Command.surroundingsOf "router:\n rules: []")
      Surroundings.builtinPath).toOption.any fun tables =>
        (tables.decide (ofString "[high] hi")).toOption.any fun decision =>
          decision.tier == .top && decision.text == ofString "hi") = true := by
    decide +kernel
  rcases exists_of_any_toOption loads with ⟨tables, loaded, decides⟩
  rcases exists_of_any_toOption decides with ⟨decision, decided, shows⟩
  rw [Bool.and_eq_true, beq_iff_eq, beq_iff_eq] at shows
  have asks : Command.Asks (Command.surroundingsOf "router:\n rules: []")
      [ofString "[high]", ofString "hi"] tables (ofString "[high] hi") :=
    .words rfl rfl rfl loaded
  have latest := latestTurn_answeredRequest (ofString "[high] hi")
  rcases @preview_agrees_with_routing _ _ tables _ _ _ _ _ latest rfl with
    ⟨fault, failed, _⟩ | ⟨routed, same, returned, _, _, shown⟩
  · rw [decided] at failed
    cases failed
  · have equal := Except.ok.inj (decided.symm.trans same)
    rw [equal] at shows
    exact ⟨tables, routed, asks, returned, shows.1, shows.2, by rw [shown _ _ asks]⟩

end Tables
end Switchboard
