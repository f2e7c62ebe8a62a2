import Switchboard.Proofs.Frame

namespace Switchboard

open Text

/-!
# What a decision depends on

Two requests are routed alike if the texts of their last user messages are the same, whatever else
they hold: earlier turns with or without tags, other members, another model, the same text spread
over other parts.  If a tag counts in this text, two sets of tables route a request alike as soon as
they have the same models and the same settings for tags: no rule, no category and no name of the
automatic model has a say.  If tags are turned off, no content changes at all.
-/

namespace Chat

open Json

/-- The text of the last message of the role user; a request without one has the empty text. -/
inductive HasLatestText (request : Request) : Text -> Prop where
  | turn {before after : List Json} {members : Members}
      (latest : LatestTurn request before members after) :
      HasLatestText request (contentText ((member? members contentKey).getD .null))
  | silent (noUser : forall message, message ∈ messages request -> ¬ IsUserTurn message) :
      HasLatestText request []

/-- Every request has one such text, and it is the one that is looked up. -/
theorem hasLatestText_iff (request : Request) (text : Text) :
    HasLatestText request text ↔ latestText request = text := by
  constructor
  · rintro (latest | noUser)
    · rw [latestText, latest.latestContent_eq]
    · rw [latestText, latestContent_of_none ((lastUser?_eq_none_iff _).mpr noUser)]
      rfl
  · intro same
    rw [← same, latestText]
    cases found : latestUser? request with
    | none =>
        rw [latestContent_of_none found]
        exact .silent ((lastUser?_eq_none_iff _).mp found)
    | some place =>
        rcases exists_latestTurn found with ⟨before, members, after, latest⟩
        rw [latest.latestContent_eq]
        exact .turn latest

end Chat

namespace Tables

open Tag

/-- With the same models and the same settings for tags, a tag that counts decides alike. -/
theorem decide_congr_of_hasTag {tables others : Tables} {message : Text}
    (models : others.models = tables.models) (tags : others.tags = tables.tags)
    (enabled : tables.tags.enabled = true) (tagged : HasTag tables.tags.position message) :
    others.decide message = tables.decide message := by
  rw [hasTag_iff] at tagged
  rcases Option.ne_none_iff_exists'.mp tagged with ⟨written, found⟩
  have counts : tables.counting? message = some written := by
    rw [counting?, if_pos enabled, found]
  have countsToo : others.counting? message = some written := by
    rw [counting?, tags, if_pos enabled, found]
  rw [decide_of_some counts, decide_of_some countsToo, tags]
  simp only [modelOf, models]

/-- Beyond the decision, routing reads nothing of the tables but where tags count. -/
theorem route_congr {tables others : Tables} {request : Chat.Request}
    (tags : others.tags = tables.tags)
    (decided : others.decide (Chat.latestText request) = tables.decide (Chat.latestText request)) :
    others.route request = tables.route request := by
  simp only [route, decided, stripRequest, tags]

theorem not_picked_of_disabled {tables : Tables} {message : Text} {decision : Decision}
    (disabled : tables.tags.enabled = false) (returned : tables.decide message = .ok decision) :
    decision.isPicked = false := by
  rw [Bool.eq_false_iff]
  intro picked
  rcases (exists_counting?_iff returned).mp picked with ⟨written, counts⟩
  rw [(enabled_of_counting? counts).1] at disabled
  cases disabled

theorem member?_modelKey_of_route {tables : Tables} {request : Chat.Request} {routed : Routed}
    (returned : tables.route request = .ok routed) :
    Json.member? routed.request Chat.modelKey = some (.text routed.decision.model) := by
  rcases route_cases returned with ⟨_, ⟨_, whole⟩ | ⟨_, _, _, whole⟩⟩
  · rw [whole]
    exact member?_modelKey_withModel _ _
  · rw [whole]
    exact member?_modelKey_withModel _ _

/-- The text of the last user message decides, and if a tag counts in it the rules have no say. -/
theorem routing_depends_on_latest_text {tables : Tables} {first second : Chat.Request} {text : Text}
    (held : Chat.HasLatestText first text) (heldToo : Chat.HasLatestText second text) :
    (forall routed again : Routed,
      tables.route first = .ok routed -> tables.route second = .ok again ->
        again.decision = routed.decision ∧
          Json.member? again.request Chat.modelKey = Json.member? routed.request Chat.modelKey) ∧
    (tables.tags.enabled = true -> HasTag tables.tags.position text ->
      forall others : Tables, others.models = tables.models -> others.tags = tables.tags ->
        others.route first = tables.route first) ∧
    (tables.tags.enabled = false -> forall routed : Routed, tables.route first = .ok routed ->
      Json.SetsMember Chat.modelKey (.text routed.decision.model) first routed.request ∧
        Json.member? routed.request Chat.messagesKey = Json.member? first Chat.messagesKey) := by
  rw [Chat.hasLatestText_iff] at held heldToo
  refine ⟨?_, ?_, ?_⟩
  · intro routed again returned returnedAgain
    have decided := (route_cases returned).1
    have decidedAgain := (route_cases returnedAgain).1
    rw [held] at decided
    rw [heldToo, decided] at decidedAgain
    injection decidedAgain with equal
    rw [member?_modelKey_of_route returned, member?_modelKey_of_route returnedAgain, equal]
    exact ⟨rfl, rfl⟩
  · intro enabled tagged others models tags
    rw [← held] at tagged
    exact route_congr tags (decide_congr_of_hasTag models tags enabled tagged)
  · intro disabled routed returned
    exact setsModel_of_rules returned (not_picked_of_disabled disabled (route_cases returned).1)

/-- Settings whose only rule gives short messages to the lowest tier. -/
def ruledSettings : RouterSettings :=
  { plainSettings {} with
    autoModel := ['s']
    fallback := ['d']
    routing := [(['d'], .mid), (['e'], .low)]
    rules := [{ category := ['e'], maxChars := some 40 }] }

/-- A tag in one of several parts and in a text of its own, with rules that have no say. -/
theorem routing_depends_on_latest_text_mixed :
    Exists fun tables : Tables => Exists fun others : Tables =>
      build (plainSettings {}) = .ok tables ∧ build ruledSettings = .ok others ∧
        (Exists fun routed : Routed => Exists fun again : Routed =>
          tables.route (mixedRequest (ofString "auto") (ofString "[high] hi")) = .ok routed ∧
            tables.route (Chat.userRequest [ofString "[high] hi\nbye"]) = .ok again ∧
            routed.decision.tier = .top ∧ again.decision = routed.decision) ∧
        others.route (mixedRequest (ofString "auto") (ofString "[high] hi")) =
          tables.route (mixedRequest (ofString "auto") (ofString "[high] hi")) := by
  have held : Chat.HasLatestText (mixedRequest (ofString "auto") (ofString "[high] hi"))
      (ofString "[high] hi\nbye") := (Chat.hasLatestText_iff _ _).mpr rfl
  have heldToo : Chat.HasLatestText (Chat.userRequest [ofString "[high] hi\nbye"])
      (ofString "[high] hi\nbye") := (Chat.hasLatestText_iff _ _).mpr rfl
  have tagged : HasTag .anywhere (ofString "[high] hi\nbye") := by
    rw [hasTag_iff]
    decide
  have plainRuns : Exists fun tables : Tables => Exists fun routed : Routed =>
      build (plainSettings {}) = .ok tables ∧ tables.tags = {} ∧
        tables.models = ⟨['l'], ['m'], ['t']⟩ ∧
        tables.route (mixedRequest (ofString "auto") (ofString "[high] hi")) = .ok routed ∧
        routed.decision.tier = .top ∧ Exists fun again : Routed =>
          tables.route (Chat.userRequest [ofString "[high] hi\nbye"]) = .ok again :=
    ⟨_, _, rfl, rfl, rfl, rfl, rfl, _, rfl⟩
  rcases plainRuns with ⟨tables, routed, built, tags, models, returned, top, again, returnedAgain⟩
  have ruled : Exists fun others : Tables => build ruledSettings = .ok others ∧
      others.tags = {} ∧ others.models = ⟨['l'], ['m'], ['t']⟩ := ⟨_, rfl, rfl, rfl⟩
  rcases ruled with ⟨others, builtToo, tagsToo, modelsToo⟩
  rcases @routing_depends_on_latest_text tables _ _ _ held heldToo with ⟨alike, bypasses, _⟩
  rw [tags] at bypasses
  exact ⟨tables, others, built, builtToo,
    ⟨routed, again, returned, returnedAgain, top, (alike _ _ returned returnedAgain).1⟩,
    bypasses rfl tagged others (modelsToo.trans models.symm) tagsToo⟩

end Tables
end Switchboard
