import Switchboard.Proofs.Frame

namespace Switchboard

open Text

/-!
# Reading and rewriting see the same texts

Two passes go through the parts of a content.  One gathers the texts, one to a line; the other
changes every text by a function.  Each of them decides by a test of its own whether a part holds a
text, and a part that only one of them took for a text would be read and left alone, or changed
unread.

What a part holds is therefore said once more, apart from both tests.  Reading finds these texts and
no others, in the order of the parts; rewriting changes them where they stand and keeps all else.
So a rewritten content reads as the changed texts, and rewriting twice is rewriting once by both
functions in turn.  Rewriting comes to the same as putting the changed texts back in order, which is
how a routed message loses its tags.
-/

namespace Chat

open Json

/-! ## The texts that parts hold -/

/-- A part holds a text: it is the text, or an object that has the text under the key of texts and
whose type, if one is given, is that of texts. -/
inductive HoldsText : Json -> Text -> Prop where
  | plain (text : Text) : HoldsText (.text text) text
  | member {members : Members} {text : Text}
      (typed : forall kind, member? members typeKey = some kind -> kind = .text textKey)
      (held : member? members textKey = some (.text text)) : HoldsText (.object members) text

/-- The texts that parts hold, in the order of the parts. -/
inductive PartsHold : List Json -> List Text -> Prop where
  | nil : PartsHold [] []
  | text {part : Json} {parts : List Json} {text : Text} {texts : List Text}
      (here : HoldsText part text) (behind : PartsHold parts texts) :
      PartsHold (part :: parts) (text :: texts)
  | silent {part : Json} {parts : List Json} {texts : List Text}
      (here : forall text, ¬ HoldsText part text) (behind : PartsHold parts texts) :
      PartsHold (part :: parts) texts

/-- The texts of a content: itself, those of its parts, or none. -/
inductive HoldsTexts : Json -> List Text -> Prop where
  | plain (text : Text) : HoldsTexts (.text text) [text]
  | parts {parts : List Json} {texts : List Text} (each : PartsHold parts texts) :
      HoldsTexts (.array parts) texts
  | other {content : Json} (noText : forall text, content ≠ .text text)
      (noParts : forall parts, content ≠ .array parts) : HoldsTexts content []

/-- A part behind a change of its text: the text changed where it stands, or the part as it was. -/
inductive PartChanged (change : Text -> Text) : Json -> Json -> Prop where
  | plain (text : Text) : PartChanged change (.text text) (.text (change text))
  | member {members changed : Members} {text : Text} (holds : HoldsText (.object members) text)
      (sets : SetsMember textKey (.text (change text)) members changed) :
      PartChanged change (.object members) (.object changed)
  | silent {part : Json} (holdsNone : forall text, ¬ HoldsText part text) :
      PartChanged change part part

variable {part : Json} {text : Text}

theorem isTextPart_iff (members : Members) : isTextPart members = true ↔
    forall kind, member? members typeKey = some kind -> kind = .text textKey := by
  rw [isTextPart]
  cases given : member? members typeKey with
  | none => simp
  | some kind => cases kind <;> simp

/-- Reading takes a text from a part exactly if the part holds it. -/
theorem partText?_eq_some_iff : partText? part = some text ↔ HoldsText part text := by
  constructor
  · intro read
    rcases partText?_cases read with same | ⟨members, same, isText, held⟩
    · rw [same]
      exact .plain text
    · rw [same]
      exact .member ((isTextPart_iff members).mp isText) held
  · rintro (_ | ⟨typed, held⟩)
    · rfl
    · rw [partText?, if_pos ((isTextPart_iff _).mpr typed), held]

theorem partText?_eq_none_iff : partText? part = none ↔ forall text, ¬ HoldsText part text := by
  simp only [Option.eq_none_iff_forall_ne_some, ne_eq, partText?_eq_some_iff]

theorem partsHold_filterMap (parts : List Json) : PartsHold parts (parts.filterMap partText?) := by
  induction parts with
  | nil => exact .nil
  | cons part parts inductionHypothesis =>
      cases read : partText? part with
      | none =>
          rw [List.filterMap_cons_none read]
          exact .silent (partText?_eq_none_iff.mp read) inductionHypothesis
      | some text =>
          rw [List.filterMap_cons_some read]
          exact .text (partText?_eq_some_iff.mp read) inductionHypothesis

theorem holdsTexts_texts (content : Json) : HoldsTexts content (texts content) := by
  cases content with
  | text text => exact .plain text
  | array parts => exact .parts (partsHold_filterMap parts)
  | _ => exact .other (fun _ => Json.noConfusion) fun _ => Json.noConfusion

/-! ## Changing them -/

variable {change next : Text -> Text}

/-- The test of rewriting agrees with that of reading. -/
theorem mapPart_eq (change : Text -> Text) (part : Json) :
    mapPart change part =
      ((partText? part).map fun text => withPartText (change text) part).getD part := by
  cases part with
  | object members =>
      rw [mapPart, partText?, isTextPart]
      cases given : member? members typeKey with
      | none =>
          cases held : member? members textKey with
          | none => rfl
          | some value => cases value <;> rfl
      | some kind =>
          cases kind with
          | text kind =>
              by_cases isText : kind = textKey
              · rw [isText]
                cases held : member? members textKey with
                | none => rfl
                | some value => cases value <;> rfl
              · have other : (kind == textKey) = false := beq_eq_false_iff_ne.mpr isText
                cases held : member? members textKey with
                | none => simp [other]
                | some value => cases value <;> simp [isText, other]
          | _ => rfl
  | _ => rfl

theorem mapPart_of_some (read : partText? part = some text) :
    mapPart change part = withPartText (change text) part := by
  rw [mapPart_eq, read]
  rfl

theorem mapPart_of_none (read : partText? part = none) : mapPart change part = part := by
  rw [mapPart_eq, read]
  rfl

theorem withPartText_withPartText (first second : Text) (part : Json) :
    withPartText second (withPartText first part) = withPartText second part := by
  cases part with
  | object members => exact congrArg Json.object (setMember_setMember members textKey _ _)
  | _ => rfl

theorem partChanged_mapPart (change : Text -> Text) (part : Json) :
    PartChanged change part (mapPart change part) := by
  cases read : partText? part with
  | none =>
      rw [mapPart_of_none read]
      exact .silent (partText?_eq_none_iff.mp read)
  | some text =>
      rw [mapPart_of_some read]
      rcases partText?_cases read with same | ⟨members, same, _⟩
      · rw [same]
        exact .plain text
      · rw [same] at read ⊢
        exact .member (partText?_eq_some_iff.mp read) (setsMember_setMember members textKey _)

theorem mapPart_mapPart (part : Json) :
    mapPart next (mapPart change part) = mapPart (next ∘ change) part := by
  cases read : partText? part with
  | none => rw [mapPart_of_none read, mapPart_of_none read, mapPart_of_none read]
  | some text =>
      rw [mapPart_of_some read, mapPart_of_some (partText?_withPartText read _),
        withPartText_withPartText, mapPart_of_some read]
      rfl

theorem map_mapPart_eq_replaceParts (parts : List Json) :
    parts.map (mapPart change) =
      replaceParts parts ((parts.filterMap partText?).map change) := by
  induction parts with
  | nil => rfl
  | cons part parts inductionHypothesis =>
      cases read : partText? part with
      | none =>
          rw [List.map_cons, mapPart_of_none read, List.filterMap_cons_none read,
            replaceParts_cons_of_none read, inductionHypothesis]
      | some text =>
          rw [List.map_cons, mapPart_of_some read, List.filterMap_cons_some read, List.map_cons,
            replaceParts_cons_of_some read, inductionHypothesis]

/-- Rewriting a content is putting its changed texts back in order. -/
theorem mapTexts_eq_replaceTexts (change : Text -> Text) (content : Json) :
    mapTexts change content = replaceTexts content ((texts content).map change) := by
  cases content with
  | array parts => exact congrArg Json.array (map_mapPart_eq_replaceParts parts)
  | _ => rfl

theorem texts_mapTexts (change : Text -> Text) (content : Json) :
    texts (mapTexts change content) = (texts content).map change := by
  rw [mapTexts_eq_replaceTexts, texts_replaceTexts content (List.length_map change)]

theorem mapTexts_mapTexts (change next : Text -> Text) (content : Json) :
    mapTexts next (mapTexts change content) = mapTexts (next ∘ change) content := by
  cases content with
  | array parts =>
      have each : mapPart next ∘ mapPart change = mapPart (next ∘ change) := funext mapPart_mapPart
      rw [mapTexts, mapTexts, mapTexts, List.map_map, each]
  | _ => rfl

/-- What is read from a rewritten content are the changed texts of the content, in their order and
one to a line.  A content that is one text is changed as a whole, parts are changed each on its own,
and any other content stays and reads as nothing.  Rewriting is putting the changed texts back, and
rewriting again is rewriting by both functions in turn. -/
theorem rewriting_changes_what_reading_sees (content : Json) (change next : Text -> Text) :
    (Exists fun held : List Text => HoldsTexts content held ∧
      contentText content = joinWith ['\n'] held ∧
      contentText (mapTexts change content) = joinWith ['\n'] (held.map change) ∧
      mapTexts change content = replaceTexts content (held.map change)) ∧
    (forall text, content = .text text -> contentText content = text ∧
      mapTexts change content = .text (change text) ∧
      contentText (mapTexts change content) = change text) ∧
    (forall parts, content = .array parts -> Exists fun rewritten : List Json =>
      mapTexts change content = .array rewritten ∧
      List.Forall₂ (PartChanged change) parts rewritten) ∧
    ((forall text, content ≠ .text text) -> (forall parts, content ≠ .array parts) ->
      contentText content = [] ∧ mapTexts change content = content) ∧
    mapTexts next (mapTexts change content) = mapTexts (next ∘ change) content := by
  refine ⟨⟨texts content, holdsTexts_texts content, rfl, ?_, mapTexts_eq_replaceTexts change content⟩,
    ?_, ?_, ?_, mapTexts_mapTexts change next content⟩
  · rw [contentText, texts_mapTexts]
  · intro text same
    rw [same]
    exact ⟨rfl, rfl, rfl⟩
  · intro parts same
    rw [same]
    refine ⟨parts.map (mapPart change), rfl, List.forall₂_map_right_iff.mpr ?_⟩
    exact List.forall₂_same.mpr fun part _ => partChanged_mapPart change part
  · intro noText noParts
    cases content with
    | text text => exact absurd rfl (noText text)
    | array parts => exact absurd rfl (noParts parts)
    | _ => exact ⟨rfl, rfl⟩

/-- A part that is a text, one of another type that has something under the key of texts, one
without a type, and one that is nothing. -/
def mixedParts : List Json :=
  [.text ['a'], .object [(typeKey, .text (ofString "image_url")), (textKey, .text ['x'])],
    .object [(textKey, .text ['b']), (ofString "cached", .bool true)], .null]

/-- A text between brackets. -/
def bracketed (text : Text) : Text := '<' :: text ++ ['>']

/-- The first and the third part are read and changed, and a content that is nothing stays. -/
theorem rewriting_changes_what_reading_sees_mixed :
    contentText (.array mixedParts) = ofString "a\nb" ∧
      contentText (mapTexts bracketed (.array mixedParts)) = ofString "<a>\n<b>" ∧
      (Exists fun rewritten : List Json =>
        mapTexts bracketed (.array mixedParts) = .array rewritten ∧
          List.Forall₂ (PartChanged bracketed) mixedParts rewritten) ∧
      mapTexts bracketed .null = .null := by
  have parts := rewriting_changes_what_reading_sees (.array mixedParts) bracketed id
  have nothing := rewriting_changes_what_reading_sees .null bracketed id
  exact ⟨rfl, rfl, parts.2.2.1 mixedParts rfl,
    (nothing.2.2.2.1 (fun _ => Json.noConfusion) fun _ => Json.noConfusion).2⟩

end Chat
end Switchboard
