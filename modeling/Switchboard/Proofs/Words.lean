import Switchboard.Proofs.Totality

namespace Switchboard

open Text

/-!
# Stripping text by text leaves the same words

A message is decided by its texts joined with line breaks, while tags are taken out of each text on
its own and every text is trimmed by itself.  The two results differ in blanks and in nothing else:
the words of a text without its tags are the words of the pieces between its free chains, and both
a closed seam and a line break put a blank, or nothing on one side, between two pieces.
-/

namespace Text

/-- The words of a text: its longest parts without blanks. -/
def wordsOf (text : Text) : List Text := (text.splitOnP isBlank).filter fun part => !part.isEmpty

/-- A blank cuts the words before it from those behind it. -/
theorem wordsOf_append_blank (left right : Text) {c : Char} (blank : isBlank c = true) :
    wordsOf (left ++ c :: right) = wordsOf left ++ wordsOf right := by
  rw [wordsOf, List.splitOnP_append_cons left right blank, List.filter_append]
  rfl

theorem wordsOf_nil : wordsOf [] = [] := rfl

theorem wordsOf_blank_cons (text : Text) {c : Char} (blank : isBlank c = true) :
    wordsOf (c :: text) = wordsOf text :=
  wordsOf_append_blank [] text blank

theorem wordsOf_border_append (text : Text) {border : Text}
    (blank : forall c, c ∈ border -> isBlank c = true) :
    wordsOf (border ++ text) = wordsOf text := by
  induction border with
  | nil => rfl
  | cons c border inductionHypothesis =>
      rw [List.cons_append, wordsOf_blank_cons _ (blank c List.mem_cons_self)]
      exact inductionHypothesis fun d member => blank d (List.mem_cons_of_mem c member)

theorem wordsOf_append_border (text : Text) {border : Text}
    (blank : forall c, c ∈ border -> isBlank c = true) :
    wordsOf (text ++ border) = wordsOf text := by
  cases border with
  | nil => rw [List.append_nil]
  | cons c border =>
      have below := wordsOf_border_append [] fun d member => blank d (List.mem_cons_of_mem c member)
      rw [List.append_nil, wordsOf_nil] at below
      rw [wordsOf_append_blank text border (blank c List.mem_cons_self), below, List.append_nil]

theorem wordsOf_trim (text : Text) : wordsOf (trim text) = wordsOf text :=
  value_trim wordsOf wordsOf_border_append wordsOf_append_border text

/-- The words of texts in lines are the words of the texts. -/
theorem wordsOf_lines (texts : List Text) :
    wordsOf (joinWith ['\n'] texts) = texts.flatMap wordsOf :=
  flatMap_lines wordsOf wordsOf_nil
    (fun left right => wordsOf_append_blank left right isBlank_lineBreak) texts

end Text

namespace Tag

/-! ## Seams and line breaks cut words alike -/

theorem wordsOf_beforeSeam (piece : Text) : wordsOf (beforeSeam piece) = wordsOf piece :=
  value_trimEndOf wordsOf (fun text _ blank => wordsOf_append_border text fun c member =>
    isBlank_of_isLineBlank (blank c member)) piece

theorem wordsOf_afterSeam (piece : Text) : wordsOf (afterSeam piece) = wordsOf piece :=
  value_trimStartOf wordsOf (fun text _ blank => wordsOf_border_append text fun c member =>
    isBlank_of_isLineBlank (blank c member)) piece

theorem wordsOf_gap (left right : Text) :
    wordsOf (left ++ (gap left right ++ right)) = wordsOf left ++ wordsOf right := by
  rcases gap_cases left right with ⟨empty, none⟩ | ⟨empty, none⟩ | ⟨none, front, c, parts, blank⟩ |
    ⟨none, c, back, parts, blank⟩ | space
  · rw [none, empty]
    rfl
  · rw [none, empty, wordsOf_nil, List.append_nil, List.append_nil, List.append_nil]
  · have alone := wordsOf_append_blank front [] blank
    rw [wordsOf_nil, List.append_nil] at alone
    rw [none, parts, alone, List.append_assoc]
    exact wordsOf_append_blank front right blank
  · rw [none, parts, wordsOf_blank_cons back blank]
    exact wordsOf_append_blank left back blank
  · rw [space]
    exact wordsOf_append_blank left right (show isBlank ' ' = true from rfl)

theorem wordsOf_join (left right : Text) :
    wordsOf (join left right) = wordsOf left ++ wordsOf right := by
  rw [join_eq, wordsOf_gap, wordsOf_beforeSeam, wordsOf_afterSeam]

theorem wordsOf_joinAll (pieces : List Text) :
    wordsOf (joinAll pieces) = pieces.flatMap wordsOf :=
  flatMap_joinAll wordsOf wordsOf_nil wordsOf_join pieces

/-! ## The words that the removal of tags leaves -/

/-- Removal leaves the words of the residue, whether there is a tag or not. -/
theorem wordsOf_removeAll (text : Text) : wordsOf (removeAll text) = wordsOf (residue text) := by
  by_cases absent : findAll text = []
  · rw [removeAll_of_findAll_eq_nil absent,
      residue_of_chains_eq_nil ((findAll_eq_nil_iff text).mp absent)]
  · rw [removeAll_eq absent, wordsOf_trim]

theorem wordsOf_residue (text : Text) :
    wordsOf (residue text) = (layout false text).pieces.flatMap wordsOf :=
  wordsOf_joinAll _

theorem wordsOf_residue_append_blank (text rest : Text) {c : Char} (blank : isBlank c = true) :
    wordsOf (residue (text ++ c :: rest)) = wordsOf (residue text) ++ wordsOf (residue rest) := by
  have leftPieces := (layout false text).pieces_eq
  have rightPieces := (layout false rest).pieces_eq_head_back
  have apart := wordsOf_append_blank (layout false text).last (layout false rest).head blank
  rw [wordsOf_residue, wordsOf_residue, wordsOf_residue, layout_append_blank false text rest blank,
    Layout.pieces_append, Layout.head_prepend, Layout.back_prepend, leftPieces, rightPieces]
  simp only [List.flatMap_append, List.flatMap_cons, List.flatMap_nil, List.append_nil,
    List.append_assoc, List.singleton_append, apart]

theorem wordsOf_residue_nil : wordsOf (residue []) = [] := by
  rw [residue, layout_nil]
  rfl

theorem wordsOf_residue_lines (texts : List Text) :
    wordsOf (residue (joinWith ['\n'] texts)) =
      texts.flatMap fun text => wordsOf (residue text) :=
  flatMap_lines (fun text => wordsOf (residue text)) wordsOf_residue_nil
    (fun left right => wordsOf_residue_append_blank left right isBlank_lineBreak) texts

/-- Taking the tags out of the texts one by one leaves the words that taking them out of the whole
leaves. -/
theorem wordsOf_removeAll_lines (texts : List Text) :
    wordsOf (joinWith ['\n'] (texts.map removeAll)) =
      wordsOf (removeAll (joinWith ['\n'] texts)) := by
  rw [wordsOf_lines, wordsOf_removeAll, wordsOf_residue_lines, List.flatMap_map]
  apply List.flatMap_congr
  intro text _
  exact wordsOf_removeAll text

theorem findAll_removeAll_lines (texts : List Text) :
    findAll (joinWith ['\n'] (texts.map removeAll)) = [] := by
  rw [findAll_lines_eq_nil_iff]
  intro text member
  rcases List.mem_map.mp member with ⟨original, _, same⟩
  rw [← same]
  exact findAll_removeAll original

theorem contentText_of_stripContent {content stripped : Json}
    (returned : stripContent .anywhere content = .ok stripped) :
    Chat.contentText stripped = joinWith ['\n'] ((Chat.texts content).map removeAll) := by
  rw [Chat.contentText,
    (stripTexts_anywhere_eq_ok_iff.1 (stripContent_eq_ok_iff.1 returned).1).1]

theorem stripContent_of_findAll_eq_nil {content : Json}
    (absent : findAll (Chat.contentText content) = []) :
    stripContent .anywhere content = .ok content := by
  have none := (findAll_lines_eq_nil_iff (Chat.texts content)).mp absent
  rw [stripContent_eq_ok_iff, stripTexts_anywhere_eq_ok_iff, Chat.replaceTexts_texts]
  refine ⟨⟨?_, ?_⟩, rfl⟩
  · rw [List.map_congr_left fun text member => removeAll_of_findAll_eq_nil (none text member)]
    exact (List.map_id _).symm
  · intro text member written found
    rw [(deciding?_anywhere_eq_none_iff text).mpr (none text member)] at found
    cases found

end Tag

namespace Tables

open Tag

/-- Where tags count anywhere, what is passed on for a tag is the content stripped text by text. -/
theorem latestText_of_stripped_anywhere {tables : Tables}
    (anywhere : tables.tags.position = .anywhere) {request stripped : Chat.Request}
    (returned : tables.stripRequest request = .ok stripped) (model : Text) :
    Chat.latestText (Chat.withModel stripped model) =
      joinWith ['\n'] ((Chat.texts (Chat.latestContent request)).map removeAll) := by
  rcases stripRequest_eq_ok returned with ⟨content, strip, _, latest⟩
  rw [anywhere] at strip
  rw [Chat.latestText, Chat.latestContent_withModel, latest, contentText_of_stripContent strip]

end Tables

namespace Tag

/-- Anywhere, stripping a content text by text leaves the words that extraction from its whole text
leaves, in their order.  What is passed on for a tag therefore holds no tag, and a content whose
whole text holds none is left as it is. -/
theorem stripContent_anywhere_agrees_with_extract (content : Json) :
    (forall (stripped : Json) (extraction : Extraction),
      stripContent .anywhere content = .ok stripped ->
      extract .anywhere (Chat.contentText content) = .ok extraction ->
        wordsOf (Chat.contentText stripped) = wordsOf extraction.text ∧
          findAll (Chat.contentText stripped) = []) ∧
    (findAll (Chat.contentText content) = [] -> stripContent .anywhere content = .ok content) ∧
    forall (tables : Tables) (request : Chat.Request) (routed : Routed),
      tables.tags.position = .anywhere -> Chat.latestContent request = content ->
      tables.route request = .ok routed -> routed.decision.isPicked = true ->
        findAll (Chat.latestText routed.request) = [] ∧
          wordsOf (Chat.latestText routed.request) = wordsOf routed.decision.text := by
  refine ⟨?_, stripContent_of_findAll_eq_nil, ?_⟩
  · intro stripped extraction strip extracted
    rw [contentText_of_stripContent strip, text_of_extract extracted, remaining_anywhere]
    exact ⟨wordsOf_removeAll_lines _, findAll_removeAll_lines _⟩
  · intro tables request routed anywhere latest returned picked
    rcases Tables.route_of_picked returned picked with
      ⟨written, stripped, decided, counting, strip, whole⟩
    have text : routed.decision.text = removeAll (Chat.latestText request) := by
      rw [Tables.decide_of_some counting, anywhere] at decided
      cases named : tier written with
      | error fault =>
          rw [named] at decided
          cases decided
      | ok picked =>
          rw [named] at decided
          injection decided with same
          rw [← same]
          rfl
    rw [text, whole, Tables.latestText_of_stripped_anywhere anywhere strip]
    exact ⟨findAll_removeAll_lines _, wordsOf_removeAll_lines _⟩

/-- Tags on both sides of the border of two parts, and a text whose bracketed word is an index. -/
theorem stripContent_anywhere_agrees_with_extract_parts :
    Exists fun tables : Tables => Exists fun routed : Routed =>
      Tables.build (Tables.plainSettings {}) = .ok tables ∧
        tables.route (Chat.userRequest [ofString "see [low]", ofString "[high] arr[med]"]) =
          .ok routed ∧
        routed.decision.isPicked = true ∧
        findAll (Chat.latestText routed.request) = [] ∧
        wordsOf (Chat.latestText routed.request) = wordsOf routed.decision.text ∧
        stripContent .anywhere (.text (ofString "arr[med]")) = .ok (.text (ofString "arr[med]")) := by
  rcases Tables.exists_plain_route {} rfl [ofString "see [low]", ofString "[high] arr[med]"] rfl
    (by decide +kernel) with ⟨tables, routed, built, tags, returned, picked⟩
  have agrees := stripContent_anywhere_agrees_with_extract
    (Chat.latestContent (Chat.userRequest [ofString "see [low]", ofString "[high] arr[med]"]))
  have passedOn := agrees.2.2 tables _ routed (by rw [tags]) rfl returned picked
  have untouched := (stripContent_anywhere_agrees_with_extract (.text (ofString "arr[med]"))).2.1 rfl
  exact ⟨tables, routed, built, returned, picked, passedOn.1, passedOn.2, untouched⟩

end Tag
end Switchboard
