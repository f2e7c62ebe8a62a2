import Mathlib.Data.List.Chain
import Switchboard.Proofs.Spans
import Switchboard.Proofs.Words

namespace Switchboard

open Text

/-!
# What the removal of spans keeps

Removing spans closes a seam where each of them was.  A seam takes the line blanks on both of its
sides and puts one space in where it would otherwise run two words together.  So nothing is lost
besides the spans but line blanks and the blanks at the ends, and the words are those of the text
with a space in the place of each span.

Line blanks that stand side by side in the result stood side by side in the text.  To say so, the
characters of the result are traced back to the positions they were copied from (`IsTraceOf`).  A
piece is a trace of its own, a seam keeps what is a trace on both of its sides, and next to it there
is a character that is no line blank; so the traces grow with the pieces.
-/

namespace Text

/-! ## Line blanks aside -/

/-- A text without its line blanks. -/
def withoutLineBlanks (text : Text) : Text := text.filter fun c => !isLineBlank c

theorem withoutLineBlanks_append (left right : Text) :
    withoutLineBlanks (left ++ right) = withoutLineBlanks left ++ withoutLineBlanks right :=
  List.filter_append left right

theorem withoutLineBlanks_eq_nil {border : Text}
    (blank : forall c, c ∈ border -> isLineBlank c = true) : withoutLineBlanks border = [] := by
  rw [withoutLineBlanks, List.filter_eq_nil_iff]
  intro c member
  rw [blank c member]
  exact Bool.false_ne_true

theorem forall_mem_withoutLineBlanks {text : Text} (blank : forall c, c ∈ text -> isBlank c = true) :
    forall c, c ∈ withoutLineBlanks text -> isBlank c = true :=
  fun c member => blank c (List.mem_of_mem_filter member)

theorem withoutLineBlanks_cons {c : Char} (filled : isBlank c = false) (text : Text) :
    withoutLineBlanks (c :: text) = c :: withoutLineBlanks text :=
  List.filter_cons_of_pos (congrArg (!·) (isLineBlank_of_isBlank_eq_false filled))

/-- Taking the line blanks out of a trimmed text leaves its ends. -/
theorem trim_withoutLineBlanks_trim (text : Text) :
    trim (withoutLineBlanks (trim text)) = withoutLineBlanks (trim text) := by
  apply trim_eq_self
  · intro c first
    cases parts : trim text with
    | nil =>
        rw [parts] at first
        cases first
    | cons d rest =>
        have filled := head?_trim text d (by rw [parts]; rfl)
        rw [parts, withoutLineBlanks_cons filled] at first
        cases first
        exact filled
  · intro c last
    rcases List.eq_nil_or_concat' (trim text) with empty | ⟨front, d, parts⟩
    · rw [empty] at last
      cases last
    · have filled := getLast?_trim text d (by rw [parts, List.getLast?_append]; rfl)
      rw [parts, withoutLineBlanks_append, withoutLineBlanks_cons filled,
        List.getLast?_append] at last
      cases last
      exact filled

theorem withoutLineBlanks_trim (text : Text) :
    withoutLineBlanks (trim text) = trim (withoutLineBlanks text) := by
  rw [← trim_withoutLineBlanks_trim]
  refine value_trim (fun text => trim (withoutLineBlanks text)) (fun text _ blank => ?_)
    (fun text _ blank => ?_) text
  · rw [withoutLineBlanks_append, trim_border_append _ (forall_mem_withoutLineBlanks blank)]
  · rw [withoutLineBlanks_append, trim_append_border _ (forall_mem_withoutLineBlanks blank)]

end Text

namespace Tag

theorem withoutLineBlanks_beforeSeam (piece : Text) :
    withoutLineBlanks (beforeSeam piece) = withoutLineBlanks piece := by
  refine value_trimEndOf withoutLineBlanks (fun text _ blank => ?_) piece
  rw [withoutLineBlanks_append, withoutLineBlanks_eq_nil blank, List.append_nil]

theorem withoutLineBlanks_afterSeam (piece : Text) :
    withoutLineBlanks (afterSeam piece) = withoutLineBlanks piece := by
  refine value_trimStartOf withoutLineBlanks (fun text _ blank => ?_) piece
  rw [withoutLineBlanks_append, withoutLineBlanks_eq_nil blank, List.nil_append]

theorem withoutLineBlanks_join (left right : Text) :
    withoutLineBlanks (join left right) = withoutLineBlanks left ++ withoutLineBlanks right := by
  rw [join_eq, withoutLineBlanks_append, withoutLineBlanks_append,
    withoutLineBlanks_eq_nil isLineBlank_of_mem_gap, List.nil_append, withoutLineBlanks_beforeSeam,
    withoutLineBlanks_afterSeam]

theorem withoutLineBlanks_joinAll (pieces : List Text) :
    withoutLineBlanks (joinAll pieces) = pieces.flatMap withoutLineBlanks :=
  flatMap_joinAll withoutLineBlanks rfl withoutLineBlanks_join pieces

theorem withoutLineBlanks_pieces (head : Text) (parts : List (Text × Text)) :
    withoutLineBlanks (head ++ parts.flatMap fun part => [] ++ part.2) =
      withoutLineBlanks head ++ parts.flatMap fun part => withoutLineBlanks part.2 := by
  rw [withoutLineBlanks_append]
  exact congrArg (withoutLineBlanks head ++ ·) List.filter_flatMap

/-- A space in the place of each span cuts the words of the pieces apart. -/
theorem wordsOf_spaced (head : Text) (parts : List (Text × Text)) :
    wordsOf (head ++ parts.flatMap fun part => [' '] ++ part.2) =
      wordsOf head ++ parts.flatMap fun part => wordsOf part.2 := by
  induction parts generalizing head with
  | nil => rw [List.flatMap_nil, List.flatMap_nil, List.append_nil, List.append_nil]
  | cons part parts inductionHypothesis =>
      have cut := wordsOf_append_blank head
        (part.2 ++ parts.flatMap fun part => [' '] ++ part.2) (show isBlank ' ' = true from rfl)
      rw [List.flatMap_cons, List.flatMap_cons, ← inductionHypothesis part.2, ← cut]
      rfl

/-! ## Traces -/

/-- A text each of whose characters has the position it was copied from, or none if it was put
in. -/
abbrev Traced := List (Char × Option Nat)

/-- If two neighbours are line blanks, they were neighbours before. -/
def StaySideBySide (left right : Char × Option Nat) : Prop :=
  isLineBlank left.1 = true -> isLineBlank right.1 = true ->
    Exists fun position : Nat => left.2 = some position ∧ right.2 = some (position + 1)

/-- A text put together from characters of another one outside of spans, in their order, and spaces;
no two line blanks of it were brought together. -/
structure IsTraceOf (text : Text) (spans : List Span) (traced : Traced) : Prop where
  copied : forall c position, (c, some position) ∈ traced ->
    text[position]? = some c ∧ covers spans position = false
  put : forall c, (c, none) ∈ traced -> c = ' '
  ascending : (traced.filterMap (·.2)).Pairwise (· < ·)
  sideBySide : traced.IsChain StaySideBySide

namespace IsTraceOf

variable {text : Text} {spans : List Span} {left right : Traced}

theorem of_infix (trace : IsTraceOf text spans right) (inside : left <:+: right) :
    IsTraceOf text spans left where
  copied c position member := trace.copied c position (inside.subset member)
  put c member := trace.put c (inside.subset member)
  ascending := trace.ascending.sublist (inside.sublist.filterMap _)
  sideBySide := trace.sideBySide.infix inside

theorem append (leftTrace : IsTraceOf text spans left) (rightTrace : IsTraceOf text spans right)
    (apart : forall p, p ∈ left.filterMap (·.2) -> forall q, q ∈ right.filterMap (·.2) -> p < q)
    (border : forall a, a ∈ left.getLast? -> forall b, b ∈ right.head? -> StaySideBySide a b) :
    IsTraceOf text spans (left ++ right) where
  copied c position member := (List.mem_append.mp member).elim
    (leftTrace.copied c position) (rightTrace.copied c position)
  put c member := (List.mem_append.mp member).elim (leftTrace.put c) (rightTrace.put c)
  ascending := by
    rw [List.filterMap_append, List.pairwise_append]
    exact ⟨leftTrace.ascending, rightTrace.ascending, apart⟩
  sideBySide := List.isChain_append.mpr ⟨leftTrace.sideBySide, rightTrace.sideBySide, border⟩

/-- What a seam puts in is a trace of its own. -/
theorem of_gap (text : Text) (spans : List Span) (before after : Text) :
    IsTraceOf text spans ((gap before after).map fun c => (c, none)) := by
  rw [gap]
  split
  · exact ⟨fun c position member => by simp at member, fun c member => by simpa using member,
      List.Pairwise.nil, List.isChain_singleton _⟩
  · exact ⟨fun c position impossible => absurd impossible List.not_mem_nil,
      fun c impossible => absurd impossible List.not_mem_nil, List.Pairwise.nil, List.isChain_nil⟩

/-- What a seam leaves of its left side does not end with a line blank. -/
theorem exists_beforeSeam (trace : IsTraceOf text spans left) :
    Exists fun front : Traced => front.map (·.1) = beforeSeam (left.map (·.1)) ∧
      IsTraceOf text spans front ∧ front.filterMap (·.2) ⊆ left.filterMap (·.2) ∧
        forall a, a ∈ front.getLast? -> isLineBlank a.1 = false := by
  rcases exists_trimEndOf_append isLineBlank (left.map (·.1)) with ⟨_, parts, _⟩
  rcases List.map_eq_append_iff.mp parts with ⟨front, behind, same, kept, _⟩
  refine ⟨front, kept, trace.of_infix ?_, ?_, ?_⟩
  · rw [same]
    exact (List.prefix_append front behind).isInfix
  · rw [same, List.filterMap_append]
    exact List.subset_append_left _ _
  · intro a last
    apply getLast?_trimEndOf (left.map (·.1))
    rw [← kept, List.getLast?_map, Option.mem_def.mp last]
    rfl

/-- What a seam leaves of its right side does not start with a line blank. -/
theorem exists_afterSeam (trace : IsTraceOf text spans right) :
    Exists fun back : Traced => back.map (·.1) = afterSeam (right.map (·.1)) ∧
      IsTraceOf text spans back ∧ back.filterMap (·.2) ⊆ right.filterMap (·.2) ∧
        forall b, b ∈ back.head? -> isLineBlank b.1 = false := by
  rcases exists_append_trimStartOf isLineBlank (right.map (·.1)) with ⟨_, parts, _⟩
  rcases List.map_eq_append_iff.mp parts with ⟨before, back, same, _, kept⟩
  refine ⟨back, kept, trace.of_infix ?_, ?_, ?_⟩
  · rw [same]
    exact (List.suffix_append before back).isInfix
  · rw [same, List.filterMap_append]
    exact List.subset_append_right _ _
  · intro b first
    apply head?_trimStartOf (right.map (·.1))
    rw [← kept, List.head?_map, Option.mem_def.mp first]
    rfl

/-- A seam copies characters from both sides and brings no line blanks together. -/
theorem exists_join (leftTrace : IsTraceOf text spans left) (rightTrace : IsTraceOf text spans right)
    (apart : forall p, p ∈ left.filterMap (·.2) -> forall q, q ∈ right.filterMap (·.2) -> p < q) :
    Exists fun joined : Traced =>
      joined.map (·.1) = join (left.map (·.1)) (right.map (·.1)) ∧ IsTraceOf text spans joined ∧
        joined.filterMap (·.2) ⊆ left.filterMap (·.2) ++ right.filterMap (·.2) := by
  rcases leftTrace.exists_beforeSeam with ⟨front, frontText, frontTrace, frontCopied, frontEnd⟩
  rcases rightTrace.exists_afterSeam with ⟨back, backText, backTrace, backCopied, backStart⟩
  let between : Traced := (gap (front.map (·.1)) (back.map (·.1))).map fun c => (c, none)
  have betweenTrace : IsTraceOf text spans between := of_gap text spans _ _
  have betweenPut : between.filterMap (·.2) = [] := by
    rw [List.filterMap_map]
    exact List.filterMap_eq_nil_iff.mpr fun _ _ => rfl
  have copied : (front ++ (between ++ back)).filterMap (·.2) =
      front.filterMap (·.2) ++ back.filterMap (·.2) := by
    rw [List.filterMap_append, List.filterMap_append, betweenPut, List.nil_append]
  refine ⟨front ++ (between ++ back), ?_, ?_, ?_⟩
  · rw [List.map_append, List.map_append, List.map_map, join_eq, ← frontText, ← backText]
    exact congrArg (fun middle => front.map (·.1) ++ (middle ++ back.map (·.1))) (List.map_id _)
  · -- Every pair of neighbours at the seam has a character that is no line blank.
    refine frontTrace.append (betweenTrace.append backTrace ?_ ?_) ?_ ?_
    · rw [betweenPut]
      exact fun p impossible => absurd impossible List.not_mem_nil
    · intro a _ b first _ blank
      rw [backStart b first] at blank
      cases blank
    · rw [List.filterMap_append, betweenPut, List.nil_append]
      exact fun p inFront q inBack => apart p (frontCopied inFront) q (backCopied inBack)
    · intro a last b _ blank
      rw [frontEnd a last] at blank
      cases blank
  · rw [copied]
    exact List.append_subset.mpr ⟨List.subset_append_of_subset_left _ frontCopied,
      List.subset_append_of_subset_right _ backCopied⟩

/-- Behind a span nothing is lost if the span counts too. -/
theorem cons_span (trace : IsTraceOf text spans left) (span : Span)
    (behind : forall p, p ∈ left.filterMap (·.2) -> span.stop <= p) :
    IsTraceOf text (span :: spans) left where
  copied c position member := by
    have copied := trace.copied c position member
    have outside : decide (position < span.stop) = false :=
      decide_eq_false (Nat.not_lt_of_le (behind position (List.mem_filterMap.mpr ⟨_, member, rfl⟩)))
    rw [covers_cons, outside, Bool.and_false, Bool.false_or]
    exact copied
  put := trace.put
  ascending := trace.ascending
  sideBySide := trace.sideBySide

end IsTraceOf

/-- A part of a text with its positions. -/
def copyOf (position : Nat) (part : Text) : Traced :=
  (part.zipIdx position).map fun placed => (placed.1, some placed.2)

theorem map_fst_copyOf (position : Nat) (part : Text) : (copyOf position part).map (·.1) = part := by
  rw [copyOf, List.map_map]
  exact List.zipIdx_map_fst position part

theorem positions_copyOf (position : Nat) (part : Text) :
    (copyOf position part).filterMap (·.2) = List.range' position part.length := by
  rw [copyOf, List.filterMap_map, ← List.zipIdx_map_snd position part, ← List.filterMap_eq_map]
  rfl

theorem sideBySide_copyOf (position : Nat) (part : Text) :
    (copyOf position part).IsChain StaySideBySide := by
  induction part generalizing position with
  | nil => exact List.isChain_nil
  | cons c part inductionHypothesis =>
      cases part with
      | nil => exact List.isChain_singleton _
      | cons d part =>
          exact List.isChain_cons_cons.mpr
            ⟨fun _ _ => ⟨position, rfl, rfl⟩, inductionHypothesis (position + 1)⟩

/-- A part of a text outside of all spans is copied as it is. -/
theorem isTraceOf_copyOf (before part after : Text) {spans : List Span}
    (outside : forall place, place < before.length + part.length -> covers spans place = false) :
    IsTraceOf (before ++ (part ++ after)) spans (copyOf before.length part) where
  copied c position member := by
    rcases List.mem_map.mp member with ⟨⟨d, place⟩, placed, same⟩
    cases same
    rcases List.mem_zipIdx_iff_le_and_getElem?_sub.mp placed with ⟨above, found⟩
    have below := List.snd_lt_add_of_mem_zipIdx placed
    refine ⟨?_, outside place below⟩
    rw [List.getElem?_append_right above, List.getElem?_append_left (by omega)]
    exact found
  put c member := by
    rcases List.mem_map.mp member with ⟨_, _, impossible⟩
    cases impossible
  ascending := by
    rw [positions_copyOf]
    exact List.pairwise_lt_range'
  sideBySide := sideBySide_copyOf before.length part

/-- The pieces that spans leave, joined, are traced back to the text. -/
theorem exists_trace_joinAll (before head : Text) (parts : List (Text × Text)) :
    Exists fun traced : Traced => traced.map (·.1) = joinAll (head :: parts.map (·.2)) ∧
      IsTraceOf (before ++ (head ++ parts.flatMap fun part => part.1 ++ part.2))
        (spansFrom (before.length + head.length) parts) traced ∧
      forall p, p ∈ traced.filterMap (·.2) -> before.length <= p := by
  induction parts generalizing before head with
  | nil =>
      refine ⟨copyOf before.length head, map_fst_copyOf _ _,
        isTraceOf_copyOf before head [] fun _ _ => rfl, ?_⟩
      intro p member
      rw [positions_copyOf] at member
      exact (List.mem_range'_1.mp member).1
  | cons part parts inductionHypothesis =>
      rcases part with ⟨gone, kept⟩
      rcases inductionHypothesis (before ++ (head ++ gone)) kept with ⟨right, rightText, rightTrace, behind⟩
      have rest : before ++ (head ++ gone) ++ (kept ++ parts.flatMap fun part => part.1 ++ part.2) =
          before ++ (head ++ ((gone, kept) :: parts).flatMap fun part => part.1 ++ part.2) := by
        simp only [List.flatMap_cons, List.append_assoc]
      have stop : (before ++ (head ++ gone)).length = before.length + head.length + gone.length := by
        simp only [List.length_append, Nat.add_assoc]
      rw [rest, stop] at rightTrace
      rw [stop] at behind
      have whole := rightTrace.cons_span ⟨before.length + head.length, _⟩ behind
      have outside : forall place, place < before.length + head.length ->
          covers (spansFrom (before.length + head.length) ((gone, kept) :: parts)) place = false :=
        fun _ below => covers_spansFrom_of_lt below
      have left := isTraceOf_copyOf before head (((gone, kept) :: parts).flatMap
        fun part => part.1 ++ part.2) outside
      have apart : forall p, p ∈ (copyOf before.length head).filterMap (·.2) ->
          forall q, q ∈ right.filterMap (·.2) -> p < q := by
        intro p inHead q later
        rw [positions_copyOf] at inHead
        have below := (List.mem_range'_1.mp inHead).2
        have above := behind q later
        omega
      rcases left.exists_join whole apart with ⟨joined, joinedText, joinedTrace, joinedCopied⟩
      refine ⟨joined, ?_, joinedTrace, ?_⟩
      · rw [joinedText, map_fst_copyOf, rightText]
        exact (joinAll_cons head (List.cons_ne_nil _ _)).symm
      · intro p member
        rcases List.mem_append.mp (joinedCopied member) with inHead | later
        · rw [positions_copyOf] at inHead
          exact (List.mem_range'_1.mp inHead).1
        · have above := behind p later
          omega

/-- Removal copies what it leaves from the text. -/
theorem exists_trace_removeSpans (head : Text) (parts : List (Text × Text)) :
    Exists fun traced : Traced =>
      traced.map (·.1) =
          removeSpans (head ++ parts.flatMap fun part => part.1 ++ part.2) (spansFrom head.length parts) ∧
        IsTraceOf (head ++ parts.flatMap fun part => part.1 ++ part.2) (spansFrom head.length parts)
          traced := by
  rcases exists_trace_joinAll [] head parts with ⟨joined, joinedText, joinedTrace, _⟩
  rw [List.nil_append, List.length_nil, Nat.zero_add] at joinedTrace
  rcases exists_borders (joinAll (head :: parts.map (·.2))) with ⟨front, back, borders, _, _⟩
  rw [← joinedText] at borders
  rcases List.map_eq_append_iff.mp borders with ⟨before, rest, same, _, restText⟩
  rcases List.map_eq_append_iff.mp restText with ⟨trimmed, after, restSame, trimmedText, _⟩
  refine ⟨trimmed, ?_, joinedTrace.of_infix ⟨before, after, ?_⟩⟩
  · rw [trimmedText, removeSpans_spansFrom, joinedText]
  · rw [same, restSame, List.append_assoc]

/-- Removing spans loses the spans, line blanks and the blanks at the ends of the text.  The words
that are left are those of the text with a space in the place of each span, neither end is blank,
and every character is copied from the text or is a space, with no two line blanks brought
together. -/
theorem removeSpans_keeps_characters_and_words {text : Text} {spans : List Span}
    (areSpans : AreSpansOf text spans) :
    withoutLineBlanks (removeSpans text spans) =
        trim (withoutLineBlanks (replaceSpans [] text spans)) ∧
      wordsOf (removeSpans text spans) = wordsOf (replaceSpans [' '] text spans) ∧
      (forall c, (removeSpans text spans).head? = some c -> isBlank c = false) ∧
      (forall c, (removeSpans text spans).getLast? = some c -> isBlank c = false) ∧
      Exists fun traced : Traced => traced.map (·.1) = removeSpans text spans ∧
        IsTraceOf text spans traced := by
  rcases areSpans.exists_parts with ⟨head, parts, rfl, rfl, filled⟩
  refine ⟨?_, ?_, ?_, ?_, exists_trace_removeSpans head parts⟩
  · have pieces := replaceSpans_spansFrom [] head filled
    rw [pieces, removeSpans_spansFrom, withoutLineBlanks_trim, withoutLineBlanks_joinAll,
      List.flatMap_cons, List.flatMap_map, withoutLineBlanks_pieces]
  · have pieces := replaceSpans_spansFrom [' '] head filled
    rw [pieces, removeSpans_spansFrom, wordsOf_trim, wordsOf_joinAll, List.flatMap_cons,
      List.flatMap_map, wordsOf_spaced]
  · exact head?_trim _
  · exact getLast?_trim _

/-- A span within a word, two spans that touch before a line break, and two spaces that stood side by
side from the beginning. -/
theorem removeSpans_keeps_characters_and_words_within_word :
    AreSpansOf (ofString "aXb  cYZ \n d ") [⟨1, 2⟩, ⟨6, 7⟩, ⟨7, 8⟩] ∧
      removeSpans (ofString "aXb  cYZ \n d ") [⟨1, 2⟩, ⟨6, 7⟩, ⟨7, 8⟩] = ofString "a b  c\n d" ∧
      withoutLineBlanks (ofString "a b  c\n d") =
        trim (withoutLineBlanks (ofString "ab  c \n d ")) ∧
      wordsOf (ofString "a b  c\n d") = wordsOf (ofString "a b  c   \n d ") ∧
      Exists fun traced : Traced => traced.map (·.1) = ofString "a b  c\n d" ∧
        IsTraceOf (ofString "aXb  cYZ \n d ") [⟨1, 2⟩, ⟨6, 7⟩, ⟨7, 8⟩] traced := by
  have areSpans : AreSpansOf (ofString "aXb  cYZ \n d ") [⟨1, 2⟩, ⟨6, 7⟩, ⟨7, 8⟩] :=
    ⟨by decide, by decide, by decide⟩
  have removed : removeSpans (ofString "aXb  cYZ \n d ") [⟨1, 2⟩, ⟨6, 7⟩, ⟨7, 8⟩] =
      ofString "a b  c\n d" := rfl
  have keeps := removeSpans_keeps_characters_and_words areSpans
  rw [removed] at keeps
  exact ⟨areSpans, removed, keeps.1, keeps.2.1, keeps.2.2.2.2⟩

end Tag
end Switchboard
