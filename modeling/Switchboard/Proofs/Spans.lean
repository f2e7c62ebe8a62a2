import Switchboard.Proofs.Removal

namespace Switchboard
namespace Tag

open Text

/-!
# Spans of a text

Spans of a text are given by positions, in ascending order and apart.  They cut the text into what
they hold and the pieces behind them, and replacing them is said position by position: where a span
starts a mark comes in, and the characters of the span are gone.  So what a text is without its
spans, or with something else in the place of each, needs no pieces to be said; that it is the
pieces with a mark before each of them is a fact about positions (`replaceSpans_spansFrom`).
-/

/-- Spans of a text from left to right: each holds a character, and none overlaps the next. -/
structure AreSpansOf (text : Text) (spans : List Span) : Prop where
  filled : forall span, span ∈ spans -> span.start < span.stop
  inside : forall span, span ∈ spans -> span.stop <= text.length
  ordered : spans.Pairwise fun left right => left.stop <= right.start

/-- Whether a position belongs to one of the spans. -/
def covers (spans : List Span) (position : Nat) : Bool :=
  spans.any fun span => span.start <= position && position < span.stop

/-- What a character at a position becomes when spans are replaced: a mark comes in where a span
starts, and the characters of spans go. -/
def shownAs (mark : Text) (spans : List Span) (placed : Char × Nat) : Text :=
  (if spans.any (·.start == placed.2) then mark else []) ++
    if covers spans placed.2 then [] else [placed.1]

/-- A text with a mark in the place of each span. -/
def replaceSpans (mark text : Text) (spans : List Span) : Text :=
  text.zipIdx.flatMap (shownAs mark spans)

theorem covers_cons (span : Span) (spans : List Span) (position : Nat) :
    covers (span :: spans) position =
      (decide (span.start <= position) && decide (position < span.stop) || covers spans position) :=
  List.any_cons

theorem exists_append_of_le_length {text : Text} {count : Nat} (enough : count <= text.length) :
    Exists fun front : Text => Exists fun back : Text =>
      text = front ++ back ∧ front.length = count :=
  ⟨text.take count, text.drop count, (List.take_append_drop count text).symm,
    List.length_take_of_le enough⟩

/-- Spans cut a text into what they hold and the pieces behind them. -/
theorem exists_parts_from {position : Nat} {text : Text} {spans : List Span}
    (filled : forall span, span ∈ spans -> span.start < span.stop)
    (inside : forall span, span ∈ spans ->
      position <= span.start ∧ span.stop <= position + text.length)
    (ordered : spans.Pairwise fun left right => left.stop <= right.start) :
    Exists fun head : Text => Exists fun parts : List (Text × Text) =>
      text = head ++ parts.flatMap (fun part => part.1 ++ part.2) ∧
        spans = spansFrom (position + head.length) parts ∧
        forall part, part ∈ parts -> part.1 ≠ [] := by
  induction spans generalizing position text with
  | nil => exact ⟨text, [], (List.append_nil text).symm, rfl, fun _ member => by cases member⟩
  | cons span spans inductionHypothesis =>
      have filledHere := filled span List.mem_cons_self
      have insideHere := inside span List.mem_cons_self
      rcases List.pairwise_cons.mp ordered with ⟨before, orderedRest⟩
      have enough : span.start - position <= text.length := by omega
      rcases exists_append_of_le_length enough with ⟨head, rest, textParts, headLength⟩
      have textLength := congrArg List.length textParts
      rw [List.length_append] at textLength
      have enoughRest : span.stop - span.start <= rest.length := by omega
      rcases exists_append_of_le_length enoughRest with ⟨gone, behind, restParts, goneLength⟩
      have restLength := congrArg List.length restParts
      rw [List.length_append] at restLength
      have insideBehind : forall other, other ∈ spans ->
          span.stop <= other.start ∧ other.stop <= span.stop + behind.length := by
        intro other member
        have bound := (inside other (List.mem_cons_of_mem span member)).2
        exact ⟨before other member, by omega⟩
      rcases inductionHypothesis (fun other member => filled other (List.mem_cons_of_mem span member))
        insideBehind orderedRest with ⟨kept, parts, behindParts, spanParts, filledParts⟩
      refine ⟨head, (gone, kept) :: parts, ?_, ?_, ?_⟩
      · rw [textParts, restParts, behindParts, List.flatMap_cons, List.append_assoc]
      · have start : position + head.length = span.start := by omega
        have stop : span.start + gone.length = span.stop := by omega
        rw [spansFrom, start, stop, ← spanParts]
      · intro part member
        rcases List.mem_cons.mp member with here | later
        · rw [here]
          intro empty
          have nothing : gone = [] := empty
          rw [nothing, List.length_nil] at goneLength
          omega
        · exact filledParts part later

theorem AreSpansOf.exists_parts {text : Text} {spans : List Span} (areSpans : AreSpansOf text spans) :
    Exists fun head : Text => Exists fun parts : List (Text × Text) =>
      text = head ++ parts.flatMap (fun part => part.1 ++ part.2) ∧
        spans = spansFrom head.length parts ∧ forall part, part ∈ parts -> part.1 ≠ [] := by
  have inside : forall span, span ∈ spans -> 0 <= span.start ∧ span.stop <= 0 + text.length := by
    intro span member
    rw [Nat.zero_add]
    exact ⟨Nat.zero_le _, areSpans.inside span member⟩
  rcases exists_parts_from areSpans.filled inside areSpans.ordered with
    ⟨head, parts, textParts, spanParts, filled⟩
  rw [Nat.zero_add] at spanParts
  exact ⟨head, parts, textParts, spanParts, filled⟩

/-! ## Replacing spans -/

theorem le_start_of_mem_spansFrom {position : Nat} {parts : List (Text × Text)} {span : Span}
    (member : span ∈ spansFrom position parts) : position <= span.start := by
  induction parts generalizing position with
  | nil => cases member
  | cons part parts inductionHypothesis =>
      rcases List.mem_cons.mp member with here | later
      · rw [here]
      · have below := inductionHypothesis later
        omega

theorem covers_spansFrom_of_lt {position place : Nat} {parts : List (Text × Text)}
    (before : place < position) : covers (spansFrom position parts) place = false := by
  rw [covers, List.any_eq_false]
  intro span member
  have start := le_start_of_mem_spansFrom member
  simp only [Bool.and_eq_true, decide_eq_true_eq, not_and]
  omega

theorem startsAt_spansFrom_of_lt {position place : Nat} {parts : List (Text × Text)}
    (before : place < position) : ((spansFrom position parts).any (·.start == place)) = false := by
  rw [List.any_eq_false]
  intro span member
  have start := le_start_of_mem_spansFrom member
  rw [beq_iff_eq]
  omega

/-- In front of all spans a text stays as it is. -/
theorem replaced_before (mark : Text) {position stop : Nat} (parts : List (Text × Text))
    {text : Text} (before : position + text.length <= stop) :
    (text.zipIdx position).flatMap (shownAs mark (spansFrom stop parts)) = text := by
  induction text generalizing position with
  | nil => rfl
  | cons c text inductionHypothesis =>
      rw [List.length_cons] at before
      have here : shownAs mark (spansFrom stop parts) (c, position) = [c] := by
        rw [shownAs, startsAt_spansFrom_of_lt (by omega), covers_spansFrom_of_lt (by omega)]
        rfl
      rw [List.zipIdx_cons, List.flatMap_cons, here, inductionHypothesis (by omega)]
      rfl

/-- Behind a span a text is replaced as if the span were not there. -/
theorem replaced_behind (mark : Text) {span : Span} (filled : span.start < span.stop)
    (spans : List Span) {position : Nat} (behind : span.stop <= position) (text : Text) :
    (text.zipIdx position).flatMap (shownAs mark (span :: spans)) =
      (text.zipIdx position).flatMap (shownAs mark spans) := by
  apply List.flatMap_congr
  rintro ⟨c, place⟩ member
  have later := List.le_snd_of_mem_zipIdx member
  have other : (span.start == place) = false := by
    rw [beq_eq_false_iff_ne]
    omega
  have outside : decide (place < span.stop) = false := decide_eq_false (by omega)
  rw [shownAs, shownAs, List.any_cons, other, Bool.false_or, covers_cons, outside, Bool.and_false,
    Bool.false_or]

/-- A span becomes the mark. -/
theorem replaced_inside (mark : Text) {position stop : Nat} {gone : Text} (filled : gone ≠ [])
    (parts : List (Text × Text)) (behind : position + gone.length <= stop) :
    (gone.zipIdx position).flatMap
      (shownAs mark (⟨position, position + gone.length⟩ :: spansFrom stop parts)) = mark := by
  have covered : forall place, position <= place -> place < position + gone.length ->
      covers (⟨position, position + gone.length⟩ :: spansFrom stop parts) place = true := by
    intro place above below
    rw [covers_cons, decide_eq_true above, decide_eq_true below]
    rfl
  cases gone with
  | nil => exact absurd rfl filled
  | cons c rest =>
      have here : shownAs mark (⟨position, position + (c :: rest).length⟩ :: spansFrom stop parts)
          (c, position) = mark := by
        rw [shownAs, covered position (Nat.le_refl _) (Nat.lt_add_of_pos_right (Nat.succ_pos _)),
          List.any_cons, beq_self_eq_true, Bool.true_or, if_pos rfl, if_pos rfl, List.append_nil]
      have others : (rest.zipIdx (position + 1)).flatMap
          (shownAs mark (⟨position, position + (c :: rest).length⟩ :: spansFrom stop parts)) = [] := by
        rw [List.flatMap_eq_nil_iff]
        rintro ⟨d, place⟩ member
        have above := List.le_snd_of_mem_zipIdx member
        have below := List.snd_lt_add_of_mem_zipIdx member
        rw [List.length_cons] at behind
        have other : (position == place) = false := beq_eq_false_iff_ne.mpr (Nat.ne_of_lt above)
        rw [shownAs, covered place (by omega) (by rw [List.length_cons]; omega), List.any_cons, other,
          startsAt_spansFrom_of_lt (by omega)]
        rfl
      rw [List.zipIdx_cons, List.flatMap_cons, here, others, List.append_nil]

theorem replaced_spansFrom (mark : Text) (position : Nat) (head : Text)
    {parts : List (Text × Text)} (filled : forall part, part ∈ parts -> part.1 ≠ []) :
    ((head ++ parts.flatMap fun part => part.1 ++ part.2).zipIdx position).flatMap
        (shownAs mark (spansFrom (position + head.length) parts)) =
      head ++ parts.flatMap fun part => mark ++ part.2 := by
  induction parts generalizing position head with
  | nil =>
      rw [List.flatMap_nil, List.append_nil, List.flatMap_nil, List.append_nil]
      exact replaced_before mark [] (Nat.le_refl _)
  | cons part parts inductionHypothesis =>
      rcases part with ⟨gone, kept⟩
      have goneFilled : gone ≠ [] := filled (gone, kept) List.mem_cons_self
      have below := inductionHypothesis (position + head.length + gone.length) kept
        fun other member => filled other (List.mem_cons_of_mem _ member)
      have here := replaced_before mark ((gone, kept) :: parts)
        (Nat.le_refl (position + head.length))
      have size : position + head.length < position + head.length + gone.length :=
        Nat.lt_add_of_pos_right (List.length_pos_iff.mpr goneFilled)
      rw [List.zipIdx_append, List.flatMap_append, here, List.flatMap_cons, List.append_assoc,
        List.zipIdx_append, List.flatMap_append, spansFrom,
        replaced_inside mark goneFilled parts (Nat.le_add_right _ _),
        replaced_behind mark size _ (Nat.le_refl _), below, List.flatMap_cons, List.append_assoc]

theorem replaceSpans_spansFrom (mark head : Text) {parts : List (Text × Text)}
    (filled : forall part, part ∈ parts -> part.1 ≠ []) :
    replaceSpans mark (head ++ parts.flatMap fun part => part.1 ++ part.2)
      (spansFrom head.length parts) = head ++ parts.flatMap fun part => mark ++ part.2 := by
  have whole := replaced_spansFrom mark 0 head filled
  rwa [Nat.zero_add] at whole

/-- Removal joins the pieces that the spans leave. -/
theorem removeSpans_spansFrom (head : Text) (parts : List (Text × Text)) :
    removeSpans (head ++ parts.flatMap fun part => part.1 ++ part.2) (spansFrom head.length parts) =
      trim (joinAll (head :: parts.map (·.2))) := by
  have pieces := piecesFrom_spansFrom [] head parts
  rw [List.nil_append, List.length_nil, Nat.zero_add] at pieces
  rw [removeSpans, pieces]

end Tag
end Switchboard
