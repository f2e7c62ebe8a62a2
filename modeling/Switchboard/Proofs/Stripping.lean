import Switchboard.Proofs.Aliases
import Switchboard.Proofs.Contents
import Switchboard.Proofs.Lines
import Switchboard.Routing.Route

namespace Switchboard
namespace Tag

open Text

/-!
# What stripping makes of the texts of a message

Stripping goes through the texts with a mark that says whether tags still count.  Here it is said
without the mark: anywhere, every text loses its tags, and at the start the first text that is not
blank is changed and no other.  Either way stripping returns exactly if no text whose tags it takes
out is decided by a tag with a foreign letter.
-/

/-- What extraction leaves of a text. -/
def remaining (position : TagPosition) (text : Text) : Text :=
  match deciding? position text with
  | none => text
  | some _ => cleaned position text

/-- The tag that decides on a text, if any, shows no foreign letter. -/
def IsFamiliar (position : TagPosition) (text : Text) : Prop :=
  forall written, deciding? position text = some written -> hasForeignI written = false

theorem text_of_extract {position : TagPosition} {text : Text} {extraction : Extraction}
    (returned : extract position text = .ok extraction) :
    extraction.text = remaining position text := by
  rcases extract_cases returned with ⟨absent, same⟩ | ⟨written, picked, found, _, same⟩
  · rw [same, remaining, absent]
  · rw [same, remaining, found]

theorem removeAll_of_findAll_eq_nil {text : Text} (absent : findAll text = []) :
    removeAll text = text := by
  rw [removeAll]
  cases size : text.length with
  | zero => rfl
  | succ rounds => rw [removeRounds, absent, List.isEmpty_nil, if_pos rfl]

/-- Anywhere, the loop leaves a text without tags as it is, so the two cases are one. -/
theorem remaining_anywhere (text : Text) : remaining .anywhere text = removeAll text := by
  rw [remaining]
  cases search : deciding? .anywhere text with
  | none =>
      rw [deciding?_anywhere_eq_none_iff] at search
      exact (removeAll_of_findAll_eq_nil search).symm
  | some written => rfl

theorem findAll_of_blank {text : Text} (blank : isBlankText text = true) : findAll text = [] := by
  rw [findAll_eq, layout_blank ((isBlankText_iff text).mp blank)]
  rfl

theorem isFamiliar_of_blank (position : TagPosition) {text : Text}
    (blank : isBlankText text = true) : IsFamiliar position text := by
  intro written found
  cases position with
  | anywhere =>
      rw [(deciding?_anywhere_eq_none_iff text).mpr (findAll_of_blank blank)] at found
      cases found
  | start =>
      rw [deciding?_start_of_blank blank] at found
      cases found

/-! ## One text at a time -/

theorem stripTexts_skip_eq_ok_iff {position : TagPosition} {done : Bool} {text : Text}
    {texts stripped : List Text} (skipped : (done || isBlankText text) = true) :
    stripTexts position done (text :: texts) = .ok stripped ↔
      Exists fun rest : List Text =>
        stripTexts position done texts = .ok rest ∧ stripped = text :: rest := by
  rw [stripTexts, if_pos skipped]
  cases stripTexts position done texts with
  | error fault =>
      refine iff_of_false (fun returned => by cases returned) ?_
      rintro ⟨rest, impossible, _⟩
      cases impossible
  | ok rest =>
      constructor
      · intro returned
        injection returned with same
        exact ⟨rest, rfl, same.symm⟩
      · rintro ⟨other, same, whole⟩
        injection same with equal
        rw [whole, equal]

theorem stripTexts_change_eq_ok_iff {position : TagPosition} {text : Text}
    {texts stripped : List Text} (filled : isBlankText text = false) :
    stripTexts position false (text :: texts) = .ok stripped ↔
      IsFamiliar position text ∧ Exists fun rest : List Text =>
        stripTexts position (position == .start) texts = .ok rest ∧
          stripped = remaining position text :: rest := by
  rw [stripTexts, filled, if_neg (by decide), IsFamiliar, ← exists_extract_iff]
  cases extracted : extract position text with
  | error fault =>
      refine iff_of_false (fun returned => by cases returned) ?_
      rintro ⟨⟨extraction, impossible⟩, _⟩
      cases impossible
  | ok extraction =>
      have text_eq := text_of_extract extracted
      cases stripTexts position (position == .start) texts with
      | error fault =>
          refine iff_of_false (fun returned => by cases returned) ?_
          rintro ⟨_, rest, impossible, _⟩
          cases impossible
      | ok rest =>
          constructor
          · intro returned
            injection returned with same
            rw [text_eq] at same
            exact ⟨⟨extraction, rfl⟩, rest, rfl, same.symm⟩
          · rintro ⟨_, other, same, whole⟩
            injection same with equal
            rw [whole, equal, ← text_eq]

/-! ## All texts -/

/-- Anywhere, every text loses its tags. -/
theorem stripTexts_anywhere_eq_ok_iff {texts stripped : List Text} :
    stripTexts .anywhere false texts = .ok stripped ↔
      stripped = texts.map removeAll ∧ forall text, text ∈ texts -> IsFamiliar .anywhere text := by
  induction texts generalizing stripped with
  | nil =>
      rw [stripTexts, List.map_nil, Except.ok.injEq]
      constructor
      · intro same
        exact ⟨same.symm, fun text impossible => absurd impossible List.not_mem_nil⟩
      · rintro ⟨same, _⟩
        exact same.symm
  | cons text texts inductionHypothesis =>
      rw [List.map_cons, List.forall_mem_cons]
      cases blank : isBlankText text with
      | true =>
          rw [stripTexts_skip_eq_ok_iff (by rw [blank, Bool.or_true]),
            removeAll_of_findAll_eq_nil (findAll_of_blank blank)]
          constructor
          · rintro ⟨rest, returned, whole⟩
            have below := inductionHypothesis.mp returned
            exact ⟨by rw [whole, below.1], isFamiliar_of_blank _ blank, below.2⟩
          · rintro ⟨whole, _, familiar⟩
            exact ⟨_, inductionHypothesis.mpr ⟨rfl, familiar⟩, whole⟩
      | false =>
          rw [stripTexts_change_eq_ok_iff blank, remaining_anywhere]
          constructor
          · rintro ⟨here, rest, returned, whole⟩
            have below := inductionHypothesis.mp returned
            exact ⟨by rw [whole, below.1], here, below.2⟩
          · rintro ⟨whole, here, familiar⟩
            exact ⟨here, _, inductionHypothesis.mpr ⟨rfl, familiar⟩, whole⟩

/-- Texts with the first one that is not blank changed. -/
def changeFirst (change : Text -> Text) : List Text -> List Text
  | [] => []
  | text :: texts =>
      if isBlankText text then text :: changeFirst change texts else change text :: texts

theorem length_changeFirst (change : Text -> Text) (texts : List Text) :
    (changeFirst change texts).length = texts.length := by
  induction texts with
  | nil => rfl
  | cons text texts inductionHypothesis =>
      rw [changeFirst]
      split
      · exact congrArg (· + 1) inductionHypothesis
      · rfl

theorem stripTexts_start_done (texts : List Text) : stripTexts .start true texts = .ok texts := by
  induction texts with
  | nil => rfl
  | cons text texts inductionHypothesis =>
      exact (stripTexts_skip_eq_ok_iff (Bool.true_or _)).mpr ⟨texts, inductionHypothesis, rfl⟩

/-- At the start, the first text that is not blank loses the tags that it starts with. -/
theorem stripTexts_start_eq_ok_iff {texts stripped : List Text} :
    stripTexts .start false texts = .ok stripped ↔
      stripped = changeFirst (remaining .start) texts ∧
        forall text, firstFilled? texts = some text -> IsFamiliar .start text := by
  induction texts generalizing stripped with
  | nil =>
      rw [stripTexts, changeFirst, Except.ok.injEq]
      constructor
      · intro same
        exact ⟨same.symm, fun text impossible => absurd impossible (Option.some_ne_none text).symm⟩
      · rintro ⟨same, _⟩
        exact same.symm
  | cons text texts inductionHypothesis =>
      rw [changeFirst]
      cases blank : isBlankText text with
      | true =>
          rw [stripTexts_skip_eq_ok_iff (by rw [blank, Bool.or_true]), if_pos rfl,
            firstFilled?_cons_blank texts blank]
          constructor
          · rintro ⟨rest, returned, whole⟩
            have below := inductionHypothesis.mp returned
            exact ⟨by rw [whole, below.1], below.2⟩
          · rintro ⟨whole, familiar⟩
            exact ⟨_, inductionHypothesis.mpr ⟨rfl, familiar⟩, whole⟩
      | false =>
          rw [stripTexts_change_eq_ok_iff blank, if_neg Bool.false_ne_true,
            firstFilled?_cons_filled texts blank]
          constructor
          · rintro ⟨here, rest, returned, whole⟩
            -- The mark is set now, so the texts behind this one are passed on as they are.
            have done : Except.ok texts = Except.ok rest :=
              (stripTexts_start_done texts).symm.trans returned
            injection done with same
            refine ⟨by rw [whole, same], fun first same => ?_⟩
            injection same with equal
            exact equal ▸ here
          · rintro ⟨whole, familiar⟩
            exact ⟨familiar text rfl, texts, stripTexts_start_done texts, whole⟩

theorem length_stripTexts {position : TagPosition} {texts stripped : List Text}
    (returned : stripTexts position false texts = .ok stripped) :
    stripped.length = texts.length := by
  cases position with
  | anywhere => rw [(stripTexts_anywhere_eq_ok_iff.1 returned).1, List.length_map]
  | start => rw [(stripTexts_start_eq_ok_iff.1 returned).1, length_changeFirst]

/-! ## Contents and requests -/

/-- Stripping a content is stripping its texts. -/
theorem stripContent_eq_ok_iff {position : TagPosition} {content stripped : Json} :
    stripContent position content = .ok stripped ↔
      stripTexts position false (Chat.texts content) = .ok (Chat.texts stripped) ∧
        stripped = Chat.replaceTexts content (Chat.texts stripped) := by
  rw [stripContent]
  cases returned : stripTexts position false (Chat.texts content) with
  | error fault =>
      refine iff_of_false (fun returned => by cases returned) ?_
      rintro ⟨impossible, _⟩
      cases impossible
  | ok texts =>
      have readBack := Chat.texts_replaceTexts content (length_stripTexts returned)
      constructor
      · intro same
        injection same with equal
        rw [← equal, readBack]
        exact ⟨rfl, rfl⟩
      · rintro ⟨same, whole⟩
        injection same with equal
        rw [whole, equal]

end Tag

namespace Tables

open Tag

/-- Stripping a request is stripping the content that it is routed by. -/
theorem stripRequest_eq_ok {tables : Tables} {request stripped : Chat.Request}
    (returned : tables.stripRequest request = .ok stripped) :
    Exists fun content : Json =>
      stripContent tables.tags.position (Chat.latestContent request) = .ok content ∧
        stripped = Chat.withLatestContent request content ∧
        Chat.latestContent stripped = content := by
  rw [stripRequest] at returned
  cases strip : stripContent tables.tags.position (Chat.latestContent request) with
  | error fault =>
      rw [strip] at returned
      cases returned
  | ok content =>
      rw [strip] at returned
      injection returned with same
      refine ⟨content, rfl, same.symm, ?_⟩
      rw [← same]
      cases latest : Chat.latestUser? request with
      | some place => exact Chat.latestContent_withLatestContent latest content
      | none =>
          have nothing := Chat.latestContent_of_none latest
          rw [nothing] at strip
          have whole := (stripContent_eq_ok_iff.1 strip).2
          rw [whole, Chat.withLatestContent, latest]
          exact nothing

end Tables
end Switchboard
