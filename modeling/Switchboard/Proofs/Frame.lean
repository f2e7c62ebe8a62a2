import Switchboard.Proofs.Stacking

namespace Switchboard

open Text

/-!
# What routing leaves as it is

A request is an object with whatever members, its messages may be of any form, and so may the parts
of a content.  Routing sets the model.  If a tag has picked the tier, it also sets the messages, in
which the content of the last user message is set, in which the texts with a tag that counts are
set.  Everything around these places stays as it is and where it is.

The frame is said place by place, from the request inwards: an object with one member set
(`Json.SetsMember`), a request with another content (`Chat.TurnChanged`), and a content whose parts
are kept or lose their tags one by one (`Tag.ContentStripped`).  None of these mentions how routing
searches for the places.
-/

namespace Json

/-! ## An object with one member set -/

/-- An object with a member set to a value: the first one of its key where it stands, or a new one
at the end.  All other members stay as they are, and where they are. -/
inductive SetsMember (key : Text) (value : Json) : Members -> Members -> Prop where
  | replaced {before after : Members} {old : Json}
      (first : forall entry, entry ∈ before -> entry.1 ≠ key) :
      SetsMember key value (before ++ (key, old) :: after) (before ++ (key, value) :: after)
  | added {members : Members} (absent : forall entry, entry ∈ members -> entry.1 ≠ key) :
      SetsMember key value members (members ++ [(key, value)])

theorem SetsMember.cons {key name : Text} {value old : Json} {members changed : Members}
    (different : name ≠ key) (sets : SetsMember key value members changed) :
    SetsMember key value ((name, old) :: members) ((name, old) :: changed) := by
  cases sets with
  | replaced first =>
      exact .replaced (List.forall_mem_cons.mpr ⟨different, first⟩)
  | added absent => exact .added (List.forall_mem_cons.mpr ⟨different, absent⟩)

theorem setsMember_setMember (members : Members) (key : Text) (value : Json) :
    SetsMember key value members (setMember members key value) := by
  induction members with
  | nil => exact .added fun entry impossible => absurd impossible List.not_mem_nil
  | cons entry members inductionHypothesis =>
      rcases entry with ⟨name, old⟩
      rw [setMember]
      by_cases same : name = key
      · rw [if_pos same, same]
        have first : forall entry : Text × Json, entry ∈ [] -> entry.1 ≠ key :=
          fun entry impossible => absurd impossible List.not_mem_nil
        exact .replaced first
      · rw [if_neg same]
        exact inductionHypothesis.cons same

end Json

namespace Chat

open Json

/-! ## A request with another content -/

/-- A message of the role user. -/
def IsUserTurn (message : Json) : Prop :=
  Exists fun members : Members => message = .object members ∧
    member? members (ofString "role") = some (.text (ofString "user"))

/-- The last message of the role user of a request, with the messages before and behind it. -/
structure LatestTurn (request : Request) (before : List Json) (members : Members)
    (after : List Json) : Prop where
  sent : member? request messagesKey = some (.array (before ++ .object members :: after))
  isUser : IsUserTurn (.object members)
  last : forall message, message ∈ after -> ¬ IsUserTurn message

/-- A request with another content in its last message of the role user, and otherwise the same. -/
inductive TurnChanged (old new : Json) : Request -> Request -> Prop where
  | turn {request changed : Request} {before after : List Json} {members turned : Members}
      (latest : LatestTurn request before members after)
      (held : member? members contentKey = some old)
      (turns : SetsMember contentKey new members turned)
      (sends : SetsMember messagesKey (.array (before ++ .object turned :: after))
        request changed) :
      TurnChanged old new request changed

theorem isUserMessage_iff (message : Json) : isUserMessage message = true ↔ IsUserTurn message := by
  cases message with
  | object members =>
      rw [isUserMessage]
      constructor
      · intro isUser
        split at isUser
        · rename_i role found
          exact ⟨members, rfl, eq_of_beq isUser ▸ found⟩
        · cases isUser
      · rintro ⟨others, same, found⟩
        injection same with same
        rw [same, found]
        exact beq_self_eq_true _
  | _ =>
      refine iff_of_false Bool.false_ne_true ?_
      rintro ⟨members, impossible, _⟩
      cases impossible

theorem lastUser?_eq_none_iff (items : List Json) :
    lastUser? items = none ↔ forall message, message ∈ items -> ¬ IsUserTurn message := by
  induction items with
  | nil => exact iff_of_true rfl fun message impossible => absurd impossible List.not_mem_nil
  | cons message items inductionHypothesis =>
      rw [lastUser?, List.forall_mem_cons, ← inductionHypothesis, ← isUserMessage_iff]
      cases lastUser? items with
      | none => simp
      | some later => simp

theorem lastUser?_append_cons {before after : List Json} {message : Json}
    (isUser : IsUserTurn message) (last : forall other, other ∈ after -> ¬ IsUserTurn other) :
    lastUser? (before ++ message :: after) = some before.length := by
  induction before with
  | nil =>
      rw [List.nil_append, lastUser?, (lastUser?_eq_none_iff after).mpr last]
      exact if_pos ((isUserMessage_iff message).mpr isUser)
  | cons other before inductionHypothesis =>
      rw [List.cons_append, lastUser?, inductionHypothesis, List.length_cons]

/-- The last user message stands at its place, and none stands behind it. -/
theorem exists_of_lastUser? {items : List Json} {place : Nat}
    (found : lastUser? items = some place) :
    Exists fun before : List Json => Exists fun members : Members => Exists fun after : List Json =>
      items = before ++ .object members :: after ∧ IsUserTurn (.object members) ∧
        forall other, other ∈ after -> ¬ IsUserTurn other := by
  induction items generalizing place with
  | nil => cases found
  | cons message items inductionHypothesis =>
      rw [lastUser?] at found
      split at found
      · rename_i later laterFound
        rcases inductionHypothesis laterFound with ⟨before, members, after, parts, isUser, last⟩
        exact ⟨message :: before, members, after, by rw [parts]; rfl, isUser, last⟩
      · rename_i behind
        split at found
        · rename_i isUser
          rcases (isUserMessage_iff message).mp isUser with ⟨members, object, role⟩
          rw [object]
          exact ⟨[], members, items, rfl, ⟨members, rfl, role⟩,
            (lastUser?_eq_none_iff items).mp behind⟩
        · cases found

theorem modify_length_append (change : Json -> Json) (before after : List Json) (message : Json) :
    (before ++ message :: after).modify before.length change =
      before ++ change message :: after := by
  rw [List.modify_eq_take_drop, List.take_left, List.drop_left, List.modifyHead_cons]

theorem messages_eq_append_cons {request : Request} {before after : List Json} {message : Json}
    (parts : messages request = before ++ message :: after) :
    member? request messagesKey = some (.array (before ++ message :: after)) := by
  rw [messages] at parts
  split at parts
  · rename_i items sent
    rw [sent, parts]
  · exact absurd parts.symm (List.append_ne_nil_of_right_ne_nil before (List.cons_ne_nil _ _))

theorem LatestTurn.messages_eq {request : Request} {before after : List Json} {members : Members}
    (latest : LatestTurn request before members after) :
    messages request = before ++ .object members :: after := by
  rw [messages, latest.sent]

theorem LatestTurn.latestUser?_eq {request : Request} {before after : List Json} {members : Members}
    (latest : LatestTurn request before members after) :
    latestUser? request = some before.length := by
  rw [latestUser?, latest.messages_eq]
  exact lastUser?_append_cons latest.isUser latest.last

theorem LatestTurn.latestContent_eq {request : Request} {before after : List Json}
    {members : Members} (latest : LatestTurn request before members after) :
    latestContent request = (member? members contentKey).getD .null := by
  simp only [latestContent, latest.latestUser?_eq, latest.messages_eq]
  rw [List.getElem?_append_right (Nat.le_refl _), Nat.sub_self]
  rfl

theorem exists_latestTurn {request : Request} {place : Nat}
    (latest : latestUser? request = some place) :
    Exists fun before : List Json => Exists fun members : Members => Exists fun after : List Json =>
      LatestTurn request before members after := by
  rcases exists_of_lastUser? latest with ⟨before, members, after, parts, isUser, last⟩
  exact ⟨before, members, after, messages_eq_append_cons parts, isUser, last⟩

/-- A content that is there is replaced in the last user message. -/
theorem turnChanged_withLatestContent {request : Request} (content : Json)
    (present : latestContent request ≠ .null) :
    TurnChanged (latestContent request) content request (withLatestContent request content) := by
  cases found : latestUser? request with
  | none => exact absurd (latestContent_of_none found) present
  | some place =>
      rcases exists_latestTurn found with ⟨before, members, after, latest⟩
      rw [latest.latestContent_eq] at present ⊢
      simp only [withLatestContent, latest.latestUser?_eq, latest.messages_eq]
      rw [modify_length_append]
      cases held : member? members contentKey with
      | none =>
          rw [held] at present
          exact absurd rfl present
      | some old =>
          exact .turn latest held (setsMember_setMember members contentKey content)
            (setsMember_setMember request messagesKey _)

theorem replaceParts_cons_of_none {part : Json} (held : partText? part = none) (parts : List Json)
    (texts : List Text) :
    replaceParts (part :: parts) texts = part :: replaceParts parts texts := by
  cases texts with
  | nil => cases parts <;> rfl
  | cons text texts => simp only [replaceParts, held]

theorem replaceParts_cons_of_some {part : Json} {old : Text} (held : partText? part = some old)
    (parts : List Json) (text : Text) (texts : List Text) :
    replaceParts (part :: parts) (text :: texts) =
      withPartText text part :: replaceParts parts texts := by
  simp only [replaceParts, held]

end Chat

namespace Tag

/-! ## A content without its tags -/

/-- A text has a tag that counts: anywhere a free chain of tags, at the start a tag that only blanks
precede. -/
def HasTag : TagPosition -> Text -> Prop
  | .anywhere, text => Exists fun chain : Chain => IsFreeChain text chain
  | .start, text => StartsWithTag text

theorem hasTag_iff (position : TagPosition) (text : Text) :
    HasTag position text ↔ deciding? position text ≠ none := by
  cases position with
  | anywhere =>
      rw [Ne, deciding?_anywhere_eq_none_iff, findAll_eq_nil_iff_freeChains, HasTag]
      simp only [← mem_freeChains_iff]
      exact ⟨fun ⟨_, member⟩ => List.ne_nil_of_mem member, List.exists_mem_of_ne_nil _⟩
  | start => exact startsWithTag_iff text

/-- A part behind stripping.  It is kept, unless it holds a text with a tag that counts; where tags
count at the start it may be kept also then, because only one text is stripped.  Or it loses the
tags of its text, and its other members stay. -/
inductive PartStripped (position : TagPosition) : Json -> Json -> Prop where
  | kept {part : Json}
      (untagged : forall text, Chat.partText? part = some text -> HasTag position text ->
        position = .start) :
      PartStripped position part part
  | text {text : Text} {extraction : Extraction} (tagged : HasTag position text)
      (extracted : extract position text = .ok extraction) :
      PartStripped position (.text text) (.text extraction.text)
  | object {members changed : Json.Members} {text : Text} {extraction : Extraction}
      (isText : Chat.isTextPart members = true)
      (held : Json.member? members Chat.textKey = some (.text text)) (tagged : HasTag position text)
      (extracted : extract position text = .ok extraction)
      (sets : Json.SetsMember Chat.textKey (.text extraction.text) members changed) :
      PartStripped position (.object members) (.object changed)

/-- A content behind stripping: the text that extraction leaves, or the same number of parts in the
same order, each of them stripped. -/
inductive ContentStripped (position : TagPosition) : Json -> Json -> Prop where
  | text {text : Text} {extraction : Extraction}
      (extracted : extract position text = .ok extraction) :
      ContentStripped position (.text text) (.text extraction.text)
  | parts {parts stripped : List Json}
      (each : List.Forall₂ (PartStripped position) parts stripped) :
      ContentStripped position (.array parts) (.array stripped)

theorem not_hasTag_of_blank (position : TagPosition) {text : Text}
    (blank : isBlankText text = true) : ¬ HasTag position text := by
  rw [hasTag_iff, not_not]
  cases position with
  | anywhere => exact (deciding?_anywhere_eq_none_iff text).mpr (findAll_of_blank blank)
  | start => exact deciding?_start_of_blank blank

theorem remaining_of_not_hasTag {position : TagPosition} {text : Text}
    (untagged : ¬ HasTag position text) : remaining position text = text := by
  rw [hasTag_iff, not_not] at untagged
  rw [remaining, untagged]

theorem partStripped_withPartText {position : TagPosition} {part : Json} {text : Text}
    (held : Chat.partText? part = some text) (familiar : IsFamiliar position text) :
    PartStripped position part (Chat.withPartText (remaining position text) part) := by
  by_cases tagged : HasTag position text
  · rcases (exists_extract_iff position text).mpr familiar with ⟨extraction, extracted⟩
    rw [← text_of_extract extracted]
    rcases Chat.partText?_cases held with same | ⟨members, same, isText, found⟩
    · rw [same]
      exact .text tagged extracted
    · rw [same]
      exact .object isText found tagged extracted (Json.setsMember_setMember members _ _)
  · rw [remaining_of_not_hasTag tagged, Chat.withPartText_self held]
    refine .kept fun other same counts => ?_
    rw [held] at same
    injection same with equal
    exact absurd (equal ▸ counts) tagged

/-- Stripping goes from part to part; the mark says that no further tag counts. -/
theorem partsStripped_of_stripTexts {position : TagPosition} {done : Bool} {parts : List Json}
    {replaced : List Text} (marked : done = true -> position = .start)
    (returned : stripTexts position done (parts.filterMap Chat.partText?) = .ok replaced) :
    List.Forall₂ (PartStripped position) parts (Chat.replaceParts parts replaced) := by
  induction parts generalizing done replaced with
  | nil => exact .nil
  | cons part parts inductionHypothesis =>
      cases held : Chat.partText? part with
      | none =>
          rw [List.filterMap_cons_none held] at returned
          rw [Chat.replaceParts_cons_of_none held]
          refine .cons (.kept fun text impossible => ?_) (inductionHypothesis marked returned)
          rw [held] at impossible
          cases impossible
      | some text =>
          rw [List.filterMap_cons_some held] at returned
          cases skipped : done || isBlankText text with
          | true =>
              rcases (stripTexts_skip_eq_ok_iff skipped).mp returned with ⟨rest, below, whole⟩
              rw [whole, Chat.replaceParts_cons_of_some held, Chat.withPartText_self held]
              refine .cons (.kept fun other same counts => ?_) (inductionHypothesis marked below)
              rw [held] at same
              injection same with equal
              rcases Bool.or_eq_true_iff.mp skipped with isDone | blank
              · exact marked isDone
              · exact absurd (equal ▸ counts) (not_hasTag_of_blank position blank)
          | false =>
              rcases Bool.or_eq_false_iff.mp skipped with ⟨isOpen, filled⟩
              rw [isOpen] at returned
              rcases (stripTexts_change_eq_ok_iff filled).mp returned with
                ⟨familiar, rest, below, whole⟩
              rw [whole, Chat.replaceParts_cons_of_some held]
              exact .cons (partStripped_withPartText held familiar)
                (inductionHypothesis (fun isStart => eq_of_beq isStart) below)

theorem contentStripped_of_stripContent {position : TagPosition} {content stripped : Json}
    (tagged : HasTag position (Chat.contentText content))
    (returned : stripContent position content = .ok stripped) :
    ContentStripped position content stripped := by
  rcases stripContent_eq_ok_iff.1 returned with ⟨texts, whole⟩
  have nothing : ¬ HasTag position [] := not_hasTag_of_blank position rfl
  cases content with
  | text text =>
      have filled : isBlankText text = false := by
        apply Bool.eq_false_iff.mpr
        intro blank
        exact not_hasTag_of_blank position blank tagged
      rcases (stripTexts_change_eq_ok_iff filled).mp texts with ⟨familiar, rest, _, replaced⟩
      rcases (exists_extract_iff position text).mpr familiar with ⟨extraction, extracted⟩
      rw [whole, replaced, ← text_of_extract extracted]
      exact .text extracted
  | array parts =>
      rw [whole]
      exact .parts (partsStripped_of_stripTexts (fun impossible => by cases impossible) texts)
  | null => exact absurd tagged nothing
  | bool value => exact absurd tagged nothing
  | integer value => exact absurd tagged nothing
  | decimal mantissa exponent => exact absurd tagged nothing
  | object members => exact absurd tagged nothing

end Tag

namespace Tables

open Tag

/-- Routing by the rules sets the model and nothing else. -/
theorem setsModel_of_rules {tables : Tables} {request : Chat.Request} {routed : Routed}
    (returned : tables.route request = .ok routed) (byRules : routed.decision.isPicked = false) :
    Json.SetsMember Chat.modelKey (.text routed.decision.model) request routed.request ∧
      Json.member? routed.request Chat.messagesKey = Json.member? request Chat.messagesKey := by
  rcases route_cases returned with ⟨_, ⟨_, whole⟩ | ⟨byTag, _⟩⟩
  · rw [whole]
    exact ⟨Json.setsMember_setMember request _ _,
      Json.member?_setMember_of_ne request Chat.messagesKey_ne_modelKey _⟩
  · rw [byRules] at byTag
    cases byTag

/-- A request that is routed by the rules is passed on with another model.  One that is routed by a
tag is passed on with another model and another content of its last user message, from which the
tags that count are taken, text by text. -/
theorem routed_request_frame {tables : Tables} {request : Chat.Request} {routed : Routed}
    (returned : tables.route request = .ok routed) :
    (routed.decision.isPicked = false ->
      Json.SetsMember Chat.modelKey (.text routed.decision.model) request routed.request ∧
      Json.member? routed.request Chat.messagesKey = Json.member? request Chat.messagesKey) ∧
    (routed.decision.isPicked = true ->
      Exists fun content : Json => Exists fun stripped : Json => Exists fun turned : Chat.Request =>
        ContentStripped tables.tags.position content stripped ∧
        Chat.TurnChanged content stripped request turned ∧
        Json.SetsMember Chat.modelKey (.text routed.decision.model) turned routed.request) := by
  refine ⟨setsModel_of_rules returned, ?_⟩
  intro byTag
  rcases route_of_picked returned byTag with ⟨written, stripped, _, counting, strip, whole⟩
  have tagged : HasTag tables.tags.position (Chat.latestText request) := by
    rw [hasTag_iff, (enabled_of_counting? counting).2]
    exact Option.some_ne_none written
  rcases stripRequest_eq_ok strip with ⟨content, stripContent, turned, _⟩
  have present : Chat.latestContent request ≠ .null := by
    intro absent
    rw [Chat.latestText, absent] at tagged
    exact not_hasTag_of_blank _ rfl tagged
  rw [whole]
  refine ⟨Chat.latestContent request, content, stripped,
    contentStripped_of_stripContent tagged stripContent, ?_, Json.setsMember_setMember stripped _ _⟩
  rw [turned]
  exact Chat.turnChanged_withLatestContent content present

/-- A request with an earlier turn, a turn of three parts, one of them of another type, a message
that is no object, and members that have nothing to do with routing. -/
def mixedRequest (model text : Text) : Chat.Request :=
  let user := (ofString "role", Json.text (ofString "user"))
  [(Chat.modelKey, .text model),
    (Chat.messagesKey, .array
      [.object [user, (Chat.contentKey, .text (ofString "[low] first"))],
        .object [user, (Chat.contentKey, .array
          [.object [(Chat.typeKey, .text (ofString "image_url"))],
            .object [(Chat.textKey, .text text), (ofString "cached", .bool true)],
            .text (ofString "bye")])],
        .text (ofString "[med]")]),
    (ofString "stream", .bool true)]

/-- The tag of the last turn goes and all around it stays. -/
theorem routed_request_frame_mixed :
    Exists fun tables : Tables => Exists fun routed : Routed =>
      build (plainSettings {}) = .ok tables ∧
        tables.route (mixedRequest (ofString "auto") (ofString "[high] hi")) = .ok routed ∧
        routed.decision.isPicked = true ∧
        routed.request = mixedRequest (ofString "t") (ofString "hi") ∧
        Exists fun content : Json => Exists fun stripped : Json => Exists fun turned : Chat.Request =>
          ContentStripped .anywhere content stripped ∧
          Chat.TurnChanged content stripped
            (mixedRequest (ofString "auto") (ofString "[high] hi")) turned ∧
          Json.SetsMember Chat.modelKey (.text (ofString "t")) turned routed.request := by
  rcases exists_plain_tables {} with ⟨tables, built, tags⟩
  have returned : tables.route (mixedRequest (ofString "auto") (ofString "[high] hi")) =
      .ok ⟨mixedRequest (ofString "t") (ofString "hi"),
        ⟨.top, ofString "t", ofString "hi\nbye", .tag⟩⟩ := by
    injection built with same
    rw [← same]
    rfl
  have stripped := (routed_request_frame returned).2 rfl
  rw [tags] at stripped
  exact ⟨tables, _, built, returned, rfl, rfl, stripped⟩

end Tables
end Switchboard
