import Switchboard.Proofs.Building
import Switchboard.Proofs.Stripping

namespace Switchboard
namespace Tables

open Tag

/-!
# When routing returns

Routing looks up the tier of a category and the tier of a tag.  The first look-up never fails with
tables that were built.  The second fails for a tag that is recognised and yet written with a letter
that no alias knows.  Such tags are the only reason why routing or a decision does not return, and
the theorem at the end says exactly which of them do it.

A request is asked about more tags than a message is: the first tag of its joined texts decides, and
anywhere each text is asked again for a tier of its own while it loses its tags.
-/

/-- The word of the tag that counts in a message. -/
def counting? (tables : Tables) (message : Text) : Option Text :=
  if tables.tags.enabled then deciding? tables.tags.position message else none

/-- The words whose tiers are asked for while a message of several texts is routed. -/
def asked (position : TagPosition) (texts : List Text) : List Text :=
  match position with
  | .anywhere => texts.filterMap (deciding? .anywhere)
  | .start => (deciding? .start (Text.joinWith ['\n'] texts)).toList

/-! ## Decisions -/

theorem exists_decideByRules {tables : Tables} (closed : tables.IsClosed) (message : Text) :
    Exists fun decision : Decision => tables.decideByRules message = .ok decision ∧
      decision.isPicked = false ∧ decision.model = tables.modelOf decision.tier := by
  rcases exists_tierOf (closed.category message) with ⟨tier, found⟩
  rw [decideByRules]
  simp only [found]
  exact ⟨_, rfl, rfl, rfl⟩

/-- Without a tag that counts the rules decide. -/
theorem decide_of_none {tables : Tables} {message : Text}
    (absent : tables.counting? message = none) :
    tables.decide message = tables.decideByRules message := by
  rw [counting?] at absent
  rw [decide]
  split
  · rename_i enabled
    rw [if_pos enabled] at absent
    rw [extract_of_none absent]
  · rfl

/-- A tag that counts decides by its tier. -/
theorem decide_of_some {tables : Tables} {message written : Text}
    (found : tables.counting? message = some written) :
    tables.decide message = (tier written).map fun picked =>
      ⟨picked, tables.modelOf picked, cleaned tables.tags.position message, .tag⟩ := by
  rw [counting?] at found
  rw [decide]
  split at found
  · rename_i enabled
    rw [if_pos enabled, extract_of_some found]
    cases tier written <;> rfl
  · cases found

theorem isTagWord_of_counting? {tables : Tables} {message written : Text}
    (found : tables.counting? message = some written) : IsTagWord written := by
  rw [counting?] at found
  split at found
  · exact isTagWord_of_deciding? found
  · cases found

/-- A decision by a tag, when there is one that counts. -/
theorem exists_decide_of_some {tables : Tables} {message written : Text}
    (found : tables.counting? message = some written) (familiar : hasForeignI written = false) :
    Exists fun decision : Decision => tables.decide message = .ok decision ∧
      decision.isPicked = true ∧ decision.model = tables.modelOf decision.tier := by
  rcases (exists_tier_iff (isTagWord_of_counting? found)).mpr familiar with ⟨picked, named⟩
  refine ⟨⟨picked, tables.modelOf picked, cleaned tables.tags.position message, .tag⟩, ?_, rfl, rfl⟩
  rw [decide_of_some found, named]
  rfl

theorem familiar_of_decide {tables : Tables} {message written : Text} {decision : Decision}
    (found : tables.counting? message = some written)
    (returned : tables.decide message = .ok decision) : hasForeignI written = false := by
  rw [decide_of_some found] at returned
  cases named : tier written with
  | error fault =>
      rw [named] at returned
      cases returned
  | ok picked => exact (exists_tier_iff (isTagWord_of_counting? found)).mp ⟨picked, named⟩

theorem exists_decide_iff {tables : Tables} (closed : tables.IsClosed) (message : Text) :
    (Exists fun decision : Decision => tables.decide message = .ok decision ∧
      decision.model = tables.modelOf decision.tier) ↔
      forall written, tables.counting? message = some written -> hasForeignI written = false := by
  constructor
  · rintro ⟨decision, returned, _⟩ written found
    exact familiar_of_decide found returned
  · intro familiar
    cases search : tables.counting? message with
    | none =>
        rcases exists_decideByRules closed message with ⟨decision, returned, _, model⟩
        exact ⟨decision, (decide_of_none search).trans returned, model⟩
    | some written =>
        rcases exists_decide_of_some search (familiar written search) with
          ⟨decision, returned, _, model⟩
        exact ⟨decision, returned, model⟩

/-! ## Requests -/

/-- A request is asked about the tag that counts in its text, and maybe about others. -/
theorem mem_asked_of_deciding? {position : TagPosition} {texts : List Text} {written : Text}
    (found : deciding? position (Text.joinWith ['\n'] texts) = some written) :
    written ∈ asked position texts := by
  cases position with
  | anywhere =>
      rw [deciding?_anywhere_lines] at found
      rcases List.exists_of_findSome?_eq_some found with ⟨text, member, here⟩
      exact List.mem_filterMap.mpr ⟨text, member, here⟩
  | start =>
      rw [asked, found]
      exact List.mem_singleton_self written

theorem exists_stripTexts_iff (position : TagPosition) (texts : List Text) :
    (Exists fun stripped : List Text => stripTexts position false texts = .ok stripped) ↔
      forall written, written ∈ asked position texts -> hasForeignI written = false := by
  cases position with
  | anywhere =>
      constructor
      · rintro ⟨stripped, returned⟩ written member
        rcases List.mem_filterMap.mp member with ⟨text, listed, found⟩
        exact (stripTexts_anywhere_eq_ok_iff.1 returned).2 text listed written found
      · intro familiar
        refine ⟨_, stripTexts_anywhere_eq_ok_iff.2 ⟨rfl, fun text listed written found => ?_⟩⟩
        exact familiar written (List.mem_filterMap.mpr ⟨text, listed, found⟩)
  | start =>
      rw [asked, deciding?_start_lines]
      constructor
      · rintro ⟨stripped, returned⟩ written member
        rcases Option.bind_eq_some_iff.mp (Option.mem_toList.mp member) with ⟨text, first, found⟩
        exact (stripTexts_start_eq_ok_iff.1 returned).2 text first written found
      · intro familiar
        refine ⟨_, stripTexts_start_eq_ok_iff.2 ⟨rfl, fun text first written found => ?_⟩⟩
        exact familiar written (Option.mem_toList.mpr (Option.bind_eq_some_iff.mpr ⟨text, first, found⟩))

theorem exists_stripRequest_iff (tables : Tables) (request : Chat.Request) :
    (Exists fun stripped : Chat.Request => tables.stripRequest request = .ok stripped) ↔
      forall written, written ∈ asked tables.tags.position (Chat.texts (Chat.latestContent request)) ->
        hasForeignI written = false := by
  rw [← exists_stripTexts_iff, stripRequest, stripContent]
  cases stripTexts tables.tags.position false (Chat.texts (Chat.latestContent request)) with
  | error fault =>
      refine iff_of_false ?_ ?_
      · rintro ⟨stripped, impossible⟩
        cases impossible
      · rintro ⟨stripped, impossible⟩
        cases impossible
  | ok texts => exact iff_of_true ⟨_, rfl⟩ ⟨texts, rfl⟩

theorem route_of_rules {tables : Tables} {request : Chat.Request} {decision : Decision}
    (decided : tables.decide (Chat.latestText request) = .ok decision)
    (byRules : decision.isPicked = false) :
    tables.route request = .ok ⟨Chat.withModel request decision.model, decision⟩ := by
  rw [route, decided]
  simp only [byRules, Bool.false_eq_true, if_false]

theorem route_of_tag {tables : Tables} {request : Chat.Request} {decision : Decision}
    (decided : tables.decide (Chat.latestText request) = .ok decision)
    (byTag : decision.isPicked = true) :
    tables.route request = (tables.stripRequest request).map fun stripped =>
      ⟨Chat.withModel stripped decision.model, decision⟩ := by
  rw [route, decided]
  simp only [byTag, if_true]
  cases tables.stripRequest request <;> rfl

/-- What routing that returns has done. -/
theorem route_cases {tables : Tables} {request : Chat.Request} {routed : Routed}
    (returned : tables.route request = .ok routed) :
    tables.decide (Chat.latestText request) = .ok routed.decision ∧
      ((routed.decision.isPicked = false ∧
          routed.request = Chat.withModel request routed.decision.model) ∨
        (routed.decision.isPicked = true ∧ Exists fun stripped : Chat.Request =>
          tables.stripRequest request = .ok stripped ∧
            routed.request = Chat.withModel stripped routed.decision.model)) := by
  cases decided : tables.decide (Chat.latestText request) with
  | error fault =>
      rw [route, decided] at returned
      cases returned
  | ok decision =>
      cases picked : decision.isPicked with
      | false =>
          rw [route_of_rules decided picked] at returned
          injection returned with same
          rw [← same]
          exact ⟨rfl, Or.inl ⟨picked, rfl⟩⟩
      | true =>
          rw [route_of_tag decided picked] at returned
          cases strip : tables.stripRequest request with
          | error fault =>
              rw [strip] at returned
              cases returned
          | ok stripped =>
              rw [strip] at returned
              injection returned with same
              rw [← same]
              exact ⟨rfl, Or.inr ⟨picked, stripped, rfl, rfl⟩⟩

theorem not_picked_of_rules {tables : Tables} {message : Text} {decision : Decision}
    (returned : tables.decideByRules message = .ok decision) : decision.isPicked = false := by
  rw [decideByRules] at returned
  split at returned
  · cases returned
  · injection returned with same
    rw [← same]
    rfl

/-- A decision is by a tag exactly if a tag counts. -/
theorem exists_counting?_iff {tables : Tables} {message : Text} {decision : Decision}
    (returned : tables.decide message = .ok decision) :
    decision.isPicked = true ↔ Exists fun written : Text =>
      tables.counting? message = some written := by
  cases search : tables.counting? message with
  | none =>
      rw [decide_of_none search] at returned
      rw [not_picked_of_rules returned]
      refine iff_of_false Bool.false_ne_true ?_
      rintro ⟨written, impossible⟩
      cases impossible
  | some written =>
      rcases exists_decide_of_some search (familiar_of_decide search returned) with
        ⟨other, same, byTag, _⟩
      have equal : Except.ok decision = Except.ok other := returned.symm.trans same
      injection equal with decisionEq
      rw [decisionEq]
      exact iff_of_true byTag ⟨written, rfl⟩

theorem enabled_of_counting? {tables : Tables} {message written : Text}
    (found : tables.counting? message = some written) :
    tables.tags.enabled = true ∧ deciding? tables.tags.position message = some written := by
  rw [counting?] at found
  split at found
  · rename_i enabled
    exact ⟨enabled, found⟩
  · cases found

/-- Routing by a tag passes on the request stripped of its tags. -/
theorem route_of_picked {tables : Tables} {request : Chat.Request} {routed : Routed}
    (returned : tables.route request = .ok routed) (picked : routed.decision.isPicked = true) :
    Exists fun written : Text => Exists fun stripped : Chat.Request =>
      tables.decide (Chat.latestText request) = .ok routed.decision ∧
        tables.counting? (Chat.latestText request) = some written ∧
        tables.stripRequest request = .ok stripped ∧
        routed.request = Chat.withModel stripped routed.decision.model := by
  rcases route_cases returned with ⟨decided, ⟨byRules, _⟩ | ⟨_, stripped, strip, whole⟩⟩
  · rw [picked] at byRules
    cases byRules
  · rcases (exists_counting?_iff decided).mp picked with ⟨written, counting⟩
    exact ⟨written, stripped, decided, counting, strip, whole⟩

theorem asked_eq_nil {position : TagPosition} {texts : List Text}
    (absent : deciding? position (Text.joinWith ['\n'] texts) = none) :
    asked position texts = [] := by
  cases position with
  | anywhere =>
      rw [deciding?_anywhere_lines, List.findSome?_eq_none_iff] at absent
      exact List.filterMap_eq_nil_iff.mpr absent
  | start =>
      rw [asked, absent]
      rfl

theorem member?_modelKey_withModel (request : Chat.Request) (model : Text) :
    Json.member? (Chat.withModel request model) Chat.modelKey = some (.text model) :=
  Json.member?_setMember_self request Chat.modelKey (.text model)

/-- A tag that counts routes the request by its tier, if no tag that is asked for is foreign. -/
theorem exists_route_of_counting {tables : Tables} {request : Chat.Request} {written : Text}
    (found : tables.counting? (Chat.latestText request) = some written)
    (familiar : forall word,
      word ∈ asked tables.tags.position (Chat.texts (Chat.latestContent request)) ->
        hasForeignI word = false) :
    Exists fun routed : Routed => tables.route request = .ok routed ∧
      routed.decision.isPicked = true ∧
      routed.decision.model = tables.modelOf routed.decision.tier ∧
      Json.member? routed.request Chat.modelKey = some (.text routed.decision.model) := by
  have here := familiar written (mem_asked_of_deciding? (enabled_of_counting? found).2)
  rcases exists_decide_of_some found here with ⟨decision, decided, byTag, model⟩
  rcases (exists_stripRequest_iff tables request).mpr familiar with ⟨stripped, returned⟩
  refine ⟨⟨Chat.withModel stripped decision.model, decision⟩, ?_, byTag, model,
    member?_modelKey_withModel _ _⟩
  rw [route_of_tag decided byTag, returned]
  rfl

/-- A request is routed unless it is asked about a tag with a foreign letter. -/
theorem exists_route_iff {tables : Tables} (closed : tables.IsClosed) (request : Chat.Request) :
    (Exists fun routed : Routed => tables.route request = .ok routed ∧
      routed.decision.model = tables.modelOf routed.decision.tier ∧
      Json.member? routed.request Chat.modelKey = some (.text routed.decision.model)) ↔
      (tables.tags.enabled = true -> forall written,
        written ∈ asked tables.tags.position (Chat.texts (Chat.latestContent request)) ->
          hasForeignI written = false) := by
  cases search : tables.counting? (Chat.latestText request) with
  | none =>
      rcases exists_decideByRules closed (Chat.latestText request) with
        ⟨decision, returned, byRules, model⟩
      -- No tag is asked for, so the request is routed and the condition holds of no tag.
      have routed := route_of_rules ((decide_of_none search).trans returned) byRules
      refine iff_of_true ⟨_, routed, model, member?_modelKey_withModel _ _⟩ ?_
      intro enabled written member
      rw [counting?, if_pos enabled] at search
      rw [asked_eq_nil search] at member
      cases member
  | some written =>
      have enabled := (enabled_of_counting? search).1
      constructor
      · rintro ⟨routed, returned, _⟩ _
        rcases route_cases returned with ⟨decided, ⟨byRules, _⟩ | ⟨_, stripped, strip, _⟩⟩
        · have byTag := (exists_counting?_iff decided).mpr ⟨written, search⟩
          rw [byRules] at byTag
          cases byTag
        · exact (exists_stripRequest_iff tables request).mp ⟨stripped, strip⟩
      · intro familiar
        rcases exists_route_of_counting search (familiar enabled) with
          ⟨routed, returned, _, model, member⟩
        exact ⟨routed, returned, model, member⟩

section

variable [CharacterNames]

/-- With tables that were built, a request is routed to the model of a tier, and a decision on a
message comes out, exactly if no tag that is asked for its tier shows a dotless small i or a dotted
capital one. -/
theorem routing_returns_iff_no_foreign_tag {settings : RouterSettings} {tables : Tables}
    (built : build settings = .ok tables) :
    (forall request : Chat.Request,
      (Exists fun routed : Routed => tables.route request = .ok routed ∧
        routed.decision.model = tables.modelOf routed.decision.tier ∧
        Json.member? routed.request Chat.modelKey = some (.text routed.decision.model)) ↔
      (tables.tags.enabled = true -> forall written,
        written ∈ asked tables.tags.position (Chat.texts (Chat.latestContent request)) ->
          hasForeignI written = false)) ∧
    forall message : Text,
      (Exists fun decision : Decision => tables.decide message = .ok decision ∧
        decision.model = tables.modelOf decision.tier) ↔
      (tables.tags.enabled = true -> forall written,
        deciding? tables.tags.position message = some written -> hasForeignI written = false) := by
  have closed := isClosed_of_build built
  refine ⟨exists_route_iff closed, fun message => ?_⟩
  rw [exists_decide_iff closed, counting?]
  cases tables.tags.enabled <;> simp

/-- Settings with one category for all messages. -/
def plainSettings (tags : TagSettings) : RouterSettings :=
  { autoModel := ['a']
    fallback := ['c']
    tags := tags
    tiers := ⟨['l'], ['m'], ['t']⟩
    routing := [(['c'], .low)]
    rules := [] }

theorem exists_plain_tables (tags : TagSettings) :
    Exists fun tables : Tables =>
      build (plainSettings tags) = .ok tables ∧ tables.tags = tags :=
  ⟨_, rfl, rfl⟩

/-- With these tables a tag that counts routes a message, if no foreign tag is asked for. -/
theorem exists_plain_route (tags : TagSettings) (enabled : tags.enabled = true)
    (texts : List Text) {written : Text}
    (found : deciding? tags.position (Text.joinWith ['\n'] texts) = some written)
    (familiar : forall word, word ∈ asked tags.position texts -> hasForeignI word = false) :
    Exists fun tables : Tables => Exists fun routed : Routed =>
      build (plainSettings tags) = .ok tables ∧ tables.tags = tags ∧
        tables.route (Chat.userRequest texts) = .ok routed ∧ routed.decision.isPicked = true := by
  rcases exists_plain_tables tags with ⟨tables, built, same⟩
  have counting : tables.counting? (Chat.latestText (Chat.userRequest texts)) = some written := by
    rw [counting?, same, enabled, Chat.latestText, Chat.contentText, Chat.texts_userRequest]
    exact found
  rw [← same, ← Chat.texts_userRequest texts] at familiar
  rcases exists_route_of_counting counting familiar with ⟨routed, returned, picked, _⟩
  exact ⟨tables, routed, built, same, returned, picked⟩

end

/-- A request without messages is routed, and a message that is nothing but a tag with a foreign
letter is not decided on. -/
theorem routing_returns_iff_no_foreign_tag_plain :
    Exists fun tables : Tables => build (plainSettings {}) = .ok tables ∧
      (Exists fun routed : Routed => tables.route [] = .ok routed ∧
        routed.decision.model = tables.modelOf routed.decision.tier ∧
        Json.member? routed.request Chat.modelKey = some (.text routed.decision.model)) ∧
      ¬ Exists fun decision : Decision =>
        tables.decide (tagged ['h', Text.dotlessI, 'g', 'h']) = .ok decision ∧
          decision.model = tables.modelOf decision.tier := by
  rcases exists_plain_tables {} with ⟨tables, built, tags⟩
  have exact_condition := routing_returns_iff_no_foreign_tag built
  refine ⟨tables, built, (exact_condition.1 []).mpr ?_, ?_⟩
  · intro _ written member
    rw [tags] at member
    cases member
  · rw [exact_condition.2, tags]
    intro familiar
    have shown := familiar rfl ['h', Text.dotlessI, 'g', 'h'] rfl
    cases shown

/-- A tag with a foreign letter stops a decision, so not every message is decided on. -/
theorem routing_stops_at_foreign_tag :
    ¬ forall (settings : RouterSettings) (tables : Tables), build settings = .ok tables ->
      (forall request : Chat.Request,
        Exists fun routed : Routed => tables.route request = .ok routed) ∧
      forall message : Text, Exists fun decision : Decision => tables.decide message = .ok decision := by
  intro total
  rcases exists_plain_tables {} with ⟨tables, built, tags⟩
  rcases (total _ tables built).2 (tagged ['h', Text.dotlessI, 'g', 'h']) with ⟨decision, returned⟩
  have found : tables.counting? (tagged ['h', Text.dotlessI, 'g', 'h']) =
      some ['h', Text.dotlessI, 'g', 'h'] := by
    rw [counting?, tags]
    rfl
  have familiar := familiar_of_decide found returned
  cases familiar

end Tables
end Switchboard
