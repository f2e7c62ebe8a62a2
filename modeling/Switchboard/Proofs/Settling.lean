import Switchboard.Proofs.Stacking

namespace Switchboard
namespace Tag

open Text

/-!
# Extraction settles

Extraction goes round after round while a tag counts.  How many rounds there are is not known
beforehand; the bound in the definition is the length of the text.  Here the loop is said without a
bound (`EndsWith`): it ends with the first text that asks for no further round.

A round takes a tag of at least two characters out for every space that it puts in, so it shortens
the text.  Hence the loop ends, whatever it starts with, and the bound is never reached before the
end.  What it ends with holds no tag that counts, and trimming its end does not bring one up.
-/

/-! ## Rounds as a loop -/

/-- What one round makes of a text, if a tag that counts is left in it. -/
def round? : TagPosition -> Text -> Option Text
  | .anywhere, text => if findAll text = [] then none else some (removeFound text)
  | .start, text => (read? text).map fun written => trimStart (text.drop (width written))

/-- What the first round goes out from. -/
def opening : TagPosition -> Text -> Text
  | .anywhere, text => text
  | .start, text => trimStart text

/-- Rounds that begin with one text go on as long as a tag counts, and end with another text. -/
inductive EndsWith (position : TagPosition) : Text -> Text -> Prop
  | done {text : Text} (last : round? position text = none) : EndsWith position text text
  | next {text shorter last : Text} (round : round? position text = some shorter)
      (rest : EndsWith position shorter last) : EndsWith position text last

theorem EndsWith.unique {position : TagPosition} {text first second : Text}
    (one : EndsWith position text first) (other : EndsWith position text second) :
    first = second := by
  induction one with
  | done last =>
      cases other with
      | done => rfl
      | next round =>
          rw [last] at round
          cases round
  | next round _ inductionHypothesis =>
      cases other with
      | done last =>
          rw [last] at round
          cases round
      | next otherRound rest =>
          rw [round] at otherRound
          cases otherRound
          exact inductionHypothesis rest

/-! ## A round shortens the text -/

theorem length_beforeSeam_le (piece : Text) : (beforeSeam piece).length <= piece.length := by
  rcases exists_trimEndOf_append isLineBlank piece with ⟨border, parts, _⟩
  have whole := congrArg List.length parts
  rw [List.length_append] at whole
  rw [beforeSeam]
  omega

theorem length_afterSeam_le (piece : Text) : (afterSeam piece).length <= piece.length :=
  (List.dropWhile_sublist isLineBlank).length_le

theorem length_gap_le (left right : Text) : (gap left right).length <= 1 := by
  rw [gap]
  split
  · exact Nat.le_refl 1
  · exact Nat.zero_le 1

/-- A seam puts in one character at most. -/
theorem length_join_le (left right : Text) :
    (join left right).length <= left.length + right.length + 1 := by
  have leftLength := length_beforeSeam_le left
  have rightLength := length_afterSeam_le right
  have gapLength := length_gap_le (beforeSeam left) (afterSeam right)
  rw [join_eq, List.length_append, List.length_append]
  omega

/-- The length of pieces, with one character more for the seam before each. -/
def lengthWithSeams : List Text -> Nat
  | [] => 0
  | piece :: pieces => piece.length + 1 + lengthWithSeams pieces

theorem length_joinAll_le (piece : Text) (pieces : List Text) :
    (joinAll (piece :: pieces)).length <= piece.length + lengthWithSeams pieces := by
  induction pieces generalizing piece with
  | nil => exact Nat.le_refl _
  | cons next rest inductionHypothesis =>
      have below := inductionHypothesis next
      have here := length_join_le piece (joinAll (next :: rest))
      rw [joinAll_cons piece (List.cons_ne_nil next rest), lengthWithSeams]
      omega

theorem length_trim_le (text : Text) : (trim text).length <= text.length := by
  rcases exists_borders text with ⟨front, back, parts, _⟩
  have whole := congrArg List.length parts
  rw [List.length_append, List.length_append] at whole
  omega

/-- The first tag of each chain takes up more than its seam can put in. -/
theorem Layout.length_exposed_le (l : Layout) :
    l.head.length + lengthWithSeams (l.firstParts.map (·.2)) + l.firstParts.length <=
      l.text.length := by
  induction l with
  | plain text => exact Nat.le_refl _
  | cut head first more behind inductionHypothesis =>
      rw [Layout.head, firstParts, text, List.map_cons, lengthWithSeams]
      simp only [List.length_cons, List.length_append, length_tagged, width]
      omega

/-- A round of removal anywhere shortens the text. -/
theorem length_removeFound_lt {text : Text} (found : findAll text ≠ []) :
    (removeFound text).length < text.length := by
  have bound := (layout false text).length_exposed_le
  have joined := length_joinAll_le (layout false text).head
    ((layout false text).firstParts.map (·.2))
  have trimmed := length_trim_le (joinAll (layout false text).exposed)
  rw [text_layout] at bound
  have some_tag : 0 < (layout false text).firstParts.length := by
    rw [findAll_eq] at found
    cases parts : layout false text with
    | plain piece =>
        rw [parts] at found
        exact absurd rfl found
    | cut head first more behind => exact Nat.succ_pos _
  rw [removeFound_eq]
  exact Nat.lt_of_le_of_lt (Nat.le_trans trimmed joined) (by omega)

/-- A round at the start takes a tag, and blanks, off the text. -/
theorem length_taken_lt {text written : Text} (found : read? text = some written) :
    (trimStart (text.drop (width written))).length < text.length := by
  rcases (read?_eq_some_iff.1 found).2 with ⟨rest, parts⟩
  have whole := congrArg List.length parts
  rw [List.length_append, length_tagged, width] at whole
  have trimmed := length_trimStart_le (text.drop (width written))
  rw [List.length_drop, width] at trimmed
  rw [width]
  omega

theorem length_lt_of_round? {position : TagPosition} {text shorter : Text}
    (round : round? position text = some shorter) : shorter.length < text.length := by
  cases position with
  | anywhere =>
      rw [round?] at round
      split at round
      · cases round
      · rename_i found
        cases round
        exact length_removeFound_lt found
  | start =>
      rcases Option.map_eq_some_iff.mp round with ⟨written, found, same⟩
      rw [← same]
      exact length_taken_lt found

/-! ## The end of the loop -/

theorem exists_endsWith (position : TagPosition) (text : Text) :
    Exists fun last : Text => EndsWith position text last := by
  induction size : text.length using Nat.strong_induction_on generalizing text with
  | _ size inductionHypothesis =>
    cases round : round? position text with
    | none => exact ⟨text, .done round⟩
    | some shorter =>
        have shrinks := length_lt_of_round? round
        rcases inductionHypothesis shorter.length (size ▸ shrinks) shorter rfl with ⟨last, rest⟩
        exact ⟨last, .next round rest⟩

theorem EndsWith.length_le {position : TagPosition} {text last : Text}
    (ends : EndsWith position text last) : last.length <= text.length := by
  induction ends with
  | done => exact Nat.le_refl _
  | next round _ inductionHypothesis =>
      have shrinks := length_lt_of_round? round
      omega

theorem EndsWith.length_lt {position : TagPosition} {text shorter last : Text}
    (ends : EndsWith position text last) (round : round? position text = some shorter) :
    last.length < text.length := by
  cases ends with
  | done absent =>
      rw [absent] at round
      cases round
  | next first rest => exact Nat.lt_of_le_of_lt rest.length_le (length_lt_of_round? first)

theorem endsWith_removeRounds {count : Nat} {text : Text} (enough : text.length <= count) :
    EndsWith .anywhere text (removeRounds count text) := by
  induction count generalizing text with
  | zero =>
      rw [List.length_eq_zero_iff.mp (Nat.le_zero.mp enough)]
      exact .done rfl
  | succ count inductionHypothesis =>
      rw [removeRounds]
      by_cases absent : findAll text = []
      · rw [absent, List.isEmpty_nil, if_pos rfl]
        exact .done (if_pos absent)
      · have shrinks := length_removeFound_lt absent
        rw [if_neg (by rw [List.isEmpty_iff]; exact absent)]
        exact .next (if_neg absent) (inductionHypothesis (by omega))

theorem endsWith_dropStacked {count : Nat} {text : Text} (enough : text.length <= count) :
    EndsWith .start text (dropStacked count text) := by
  induction count generalizing text with
  | zero =>
      rw [List.length_eq_zero_iff.mp (Nat.le_zero.mp enough)]
      exact .done rfl
  | succ count inductionHypothesis =>
      rw [dropStacked]
      cases found : read? text with
      | none => exact .done (by rw [round?, found]; rfl)
      | some written =>
          have shrinks := length_taken_lt found
          exact .next (by rw [round?, found]; rfl) (inductionHypothesis (by omega))

theorem EndsWith.round?_eq_none {position : TagPosition} {text last : Text}
    (ends : EndsWith position text last) : round? position last = none := by
  induction ends with
  | done absent => exact absent
  | next _ _ inductionHypothesis => exact inductionHypothesis

/-! ## Extraction -/

theorem exists_round_of_deciding? {position : TagPosition} {text written : Text}
    (found : deciding? position text = some written) :
    Exists fun shorter : Text => round? position (opening position text) = some shorter := by
  cases position with
  | anywhere =>
      exact ⟨removeFound text, if_neg (findAll_ne_nil_of_deciding? found)⟩
  | start => exact ⟨_, Option.map_eq_some_iff.mpr ⟨written, found, rfl⟩⟩

theorem length_opening_le (position : TagPosition) (text : Text) :
    (opening position text).length <= text.length := by
  cases position with
  | anywhere => exact Nat.le_refl _
  | start => exact length_trimStart_le text

/-- What extraction leaves is what the loop ends with, trimmed. -/
theorem exists_endsWith_cleaned {position : TagPosition} {text written : Text}
    (found : deciding? position text = some written) :
    Exists fun last : Text =>
      EndsWith position (opening position text) last ∧ cleaned position text = trim last := by
  cases position with
  | anywhere =>
      refine ⟨removeAll text, endsWith_removeRounds (Nat.le_refl _), ?_⟩
      rw [cleaned, removeAll_eq (findAll_ne_nil_of_deciding? found), trim_trim]
  | start => exact ⟨_, endsWith_dropStacked (length_trimStart_le text), rfl⟩

theorem deciding?_cleaned (position : TagPosition) (text : Text) :
    deciding? position (cleaned position text) = none := by
  cases position with
  | anywhere => exact (deciding?_anywhere_eq_none_iff _).mpr (findAll_removeAll text)
  | start => exact deciding?_cleaned_start text

/-- Every round shortens the text, so the rounds end, with one text and in one way.  What extraction
leaves of a message with a tag is what they end with, trimmed; it is shorter than the message, and
extraction finds no tag in it. -/
theorem extraction_settles (position : TagPosition) :
    (forall text shorter : Text, round? position text = some shorter ->
      shorter.length < text.length) ∧
    (forall text : Text, Exists fun last : Text => EndsWith position text last ∧
      round? position last = none ∧
        forall other : Text, EndsWith position text other -> other = last) ∧
    forall (text remains : Text) (picked : Tier),
      extract position text = .ok ⟨some picked, remains⟩ ->
        (Exists fun last : Text =>
          EndsWith position (opening position text) last ∧ remains = trim last) ∧
        trim remains = remains ∧ remains.length < text.length ∧
        extract position remains = .ok ⟨none, remains⟩ := by
  refine ⟨fun _ _ => length_lt_of_round?, fun text => ?_, ?_⟩
  · rcases exists_endsWith position text with ⟨last, ends⟩
    exact ⟨last, ends, ends.round?_eq_none, fun _ other => other.unique ends⟩
  · intro text remains picked returned
    rcases extract_cases returned with ⟨_, impossible⟩ | ⟨written, _, found, _, same⟩
    · cases impossible
    · injection same with _ whole
      rcases exists_endsWith_cleaned found with ⟨last, ends, trimmed⟩
      rcases exists_round_of_deciding? found with ⟨shorter, round⟩
      rw [whole]
      refine ⟨⟨last, ends, trimmed⟩, ?_, ?_, extract_of_none (deciding?_cleaned position text)⟩
      · rw [trimmed, trim_trim]
      · calc (cleaned position text).length <= last.length := trimmed ▸ length_trim_le last
          _ < (opening position text).length := ends.length_lt round
          _ <= text.length := length_opening_le position text

/-- A tag nested in brackets and two tags of which the second is exposed by the removal of the first;
at the start, a stack of tags in front of one that does not count. -/
theorem extraction_settles_nested :
    (extract .anywhere (ofString "see [[low]high] [med][low]") =
        .ok ⟨some .low, ofString "see [ high]"⟩ ∧
      (ofString "see [ high]").length < (ofString "see [[low]high] [med][low]").length ∧
      extract .anywhere (ofString "see [ high]") = .ok ⟨none, ofString "see [ high]"⟩) ∧
    extract .start (ofString " [high] [low][med] see [low] ") =
        .ok ⟨some .top, ofString "see [low]"⟩ ∧
      extract .start (ofString "see [low]") = .ok ⟨none, ofString "see [low]"⟩ := by
  have anywhere : extract .anywhere (ofString "see [[low]high] [med][low]") =
      .ok ⟨some .low, ofString "see [ high]"⟩ := rfl
  have atStart : extract .start (ofString " [high] [low][med] see [low] ") =
      .ok ⟨some .top, ofString "see [low]"⟩ := rfl
  have nested := (extraction_settles .anywhere).2.2 _ _ _ anywhere
  have stacked := (extraction_settles .start).2.2 _ _ _ atStart
  exact ⟨⟨anywhere, nested.2.2⟩, atStart, stacked.2.2.2⟩

end Tag
end Switchboard
