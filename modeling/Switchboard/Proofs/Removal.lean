import Switchboard.Proofs.Joining
import Switchboard.Proofs.Layout

namespace Switchboard
namespace Tag

open Text

/-!
# Removal respects seams

Taking the free chains out of a text leaves its residue.  The residue of two joined pieces is the
join of their residues, and the chains of the joined pieces are the chains of one followed by the
chains of the other (`residue_join`, `chains_join`).  This holds because a seam leaves a blank, or
nothing on one of its sides: it neither glues a tag that was free nor frees one that was glued, and
it completes no tag.

What decides the gap of a seam may be a tag that goes away later.  Then the gap stands next to a
later seam, which takes it back.
-/

/-! ## Pieces between spans -/

/-- The spans of the first components of pairs of texts that follow one another from a position
on. -/
def spansFrom : Nat -> List (Text × Text) -> List Span
  | _, [] => []
  | position, (gone, kept) :: parts =>
      ⟨position, position + gone.length⟩ :: spansFrom (position + gone.length + kept.length) parts

theorem piecesFrom_spansFrom (before head : Text) (parts : List (Text × Text)) :
    piecesFrom before.length (before ++ (head ++ parts.flatMap fun part => part.1 ++ part.2))
        (spansFrom (before.length + head.length) parts) =
      head :: parts.map (·.2) := by
  induction parts generalizing before head with
  | nil => simp [spansFrom, piecesFrom]
  | cons part parts inductionHypothesis =>
      rcases part with ⟨gone, kept⟩
      have below := inductionHypothesis (before ++ (head ++ gone)) kept
      have shape : before ++ (head ++ ((gone, kept) :: parts).flatMap fun part => part.1 ++ part.2) =
          before ++ (head ++ gone) ++ (kept ++ parts.flatMap fun part => part.1 ++ part.2) := by
        simp only [List.flatMap_cons, List.append_assoc]
      have cursor : before.length + head.length + gone.length = (before ++ (head ++ gone)).length := by
        simp only [List.length_append, Nat.add_assoc]
      rw [spansFrom, piecesFrom, cursor, shape, below]
      refine congrArg₂ List.cons ?_ rfl
      rw [List.append_assoc, ← List.append_assoc, ← List.length_append, List.append_assoc head,
        ← List.append_assoc, List.take_left, List.drop_left]

namespace Layout

/-- The chains, each with the piece behind it. -/
def wholeParts : Layout -> List (Text × Text)
  | plain _ => []
  | cut _ first more behind => (taggedAll (first :: more), behind.head) :: behind.wholeParts

/-- The first tags of the chains, each with the text behind it up to the next chain. -/
def firstParts : Layout -> List (Text × Text)
  | plain _ => []
  | cut _ first more behind => (tagged first, taggedAll more ++ behind.head) :: behind.firstParts

/-- The text between the first tags of the chains. -/
def exposed (l : Layout) : List Text := l.head :: l.firstParts.map (·.2)

theorem text_eq_wholeParts (l : Layout) :
    l.text = l.head ++ l.wholeParts.flatMap fun part => part.1 ++ part.2 := by
  induction l with
  | plain text => exact (List.append_nil text).symm
  | cut head first more behind inductionHypothesis =>
      rw [text, inductionHypothesis, wholeParts, List.flatMap_cons, taggedAll_cons]
      simp only [Layout.head, List.append_assoc]

theorem text_eq_firstParts (l : Layout) :
    l.text = l.head ++ l.firstParts.flatMap fun part => part.1 ++ part.2 := by
  induction l with
  | plain text => exact (List.append_nil text).symm
  | cut head first more behind inductionHypothesis =>
      rw [text, inductionHypothesis, firstParts, List.flatMap_cons]
      simp only [Layout.head, List.append_assoc]

theorem span_freeChains (position : Nat) (l : Layout) :
    (l.freeChains position).map (·.span) = spansFrom (position + l.head.length) l.wholeParts := by
  induction l generalizing position with
  | plain text => rfl
  | cut head first more behind inductionHypothesis =>
      rw [freeChains, List.map_cons, inductionHypothesis]
      rfl

theorem span_found (position : Nat) (l : Layout) :
    (l.found position).map (·.span) = spansFrom (position + l.head.length) l.firstParts := by
  induction l generalizing position with
  | plain text => rfl
  | cut head first more behind inductionHypothesis =>
      rw [found, List.map_cons, inductionHypothesis, firstParts, spansFrom, length_tagged]
      refine congrArg₂ List.cons rfl (congrArg (spansFrom · behind.firstParts) ?_)
      rw [taggedAll_cons, List.length_append, List.length_append, length_tagged, Layout.head]
      omega

theorem wholeParts_pieces (l : Layout) : l.head :: l.wholeParts.map (·.2) = l.pieces := by
  induction l with
  | plain text => rfl
  | cut head first more behind inductionHypothesis =>
      exact congrArg (head :: ·) inductionHypothesis

end Layout

/-- A text without its free chains, before it is trimmed. -/
def residue (text : Text) : Text := joinAll (layout false text).pieces

/-- The words of the free chains of a text. -/
def chains (text : Text) : List (List Text) := (layout false text).chains

/-- Removing the spans of all free chains at once leaves the trimmed residue. -/
theorem removeSpans_freeChains (text : Text) :
    removeSpans text ((freeChains text).map (·.span)) = trim (residue text) := by
  have parted := piecesFrom_spansFrom [] (layout false text).head (layout false text).wholeParts
  rw [← Layout.text_eq_wholeParts, text_layout, Layout.wholeParts_pieces] at parted
  rw [removeSpans, freeChains_eq, Layout.span_freeChains, residue]
  exact congrArg (trim ∘ joinAll) parted

/-- One round removes the first tag of every free chain. -/
theorem removeFound_eq (text : Text) :
    removeFound text = trim (joinAll (layout false text).exposed) := by
  have parted := piecesFrom_spansFrom [] (layout false text).head (layout false text).firstParts
  rw [← Layout.text_eq_firstParts, text_layout] at parted
  rw [removeFound, removeSpans, findAll_eq, Layout.span_found]
  exact congrArg (trim ∘ joinAll) parted

/-! ## Layouts of joined pieces -/

namespace Layout

/-- The pieces before the last one. -/
def front : Layout -> List Text
  | plain _ => []
  | cut head _ _ behind => head :: behind.front

/-- The piece behind the last chain. -/
def last : Layout -> Text
  | plain text => text
  | cut _ _ _ behind => behind.last

/-- The pieces behind the first one. -/
def back : Layout -> List Text
  | plain _ => []
  | cut _ _ _ behind => behind.pieces

theorem pieces_eq_head_back (l : Layout) : l.pieces = l.head :: l.back := by
  cases l <;> rfl

theorem pieces_ne_nil (l : Layout) : l.pieces ≠ [] := by
  rw [pieces_eq_head_back]
  exact List.cons_ne_nil _ _

theorem pieces_prepend (front : Text) (l : Layout) :
    (l.prepend front).pieces = (front ++ l.head) :: l.back := by
  cases l <;> rfl

theorem pieces_append (left right : Layout) :
    (left.append right).pieces = left.front ++ (left.last ++ right.head) :: right.back := by
  induction left with
  | plain text => exact pieces_prepend text right
  | cut head first more behind inductionHypothesis =>
      exact congrArg (head :: ·) inductionHypothesis

theorem head_prepend (front : Text) (l : Layout) : (l.prepend front).head = front ++ l.head := by
  cases l <;> rfl

theorem back_prepend (front : Text) (l : Layout) : (l.prepend front).back = l.back := by
  cases l <;> rfl

theorem chains_prepend (front : Text) (l : Layout) : (l.prepend front).chains = l.chains := by
  cases l <;> rfl

theorem chains_append (left right : Layout) :
    (left.append right).chains = left.chains ++ right.chains := by
  induction left with
  | plain text => exact chains_prepend text right
  | cut head first more behind inductionHypothesis =>
      exact congrArg ((first :: more) :: ·) inductionHypothesis

/-- A layout ends with its last piece, which is the whole text unless there are others. -/
theorem exists_text_eq_append_last (l : Layout) :
    Exists fun before : Text => l.text = before ++ l.last ∧ (l.front = [] -> before = []) := by
  induction l with
  | plain text => exact ⟨[], rfl, fun _ => rfl⟩
  | cut head first more behind inductionHypothesis =>
      rcases inductionHypothesis with ⟨before, parts, _⟩
      refine ⟨head ++ (tagged first ++ (taggedAll more ++ before)), ?_, fun impossible => ?_⟩
      · simp only [text, parts, last, List.append_assoc]
      · cases impossible

/-- A layout starts with its first piece, which is the whole text unless there are others. -/
theorem exists_text_eq_head_append_back (l : Layout) :
    Exists fun behind : Text => l.text = l.head ++ behind ∧ (l.back = [] -> behind = []) := by
  cases l with
  | plain text => exact ⟨[], (List.append_nil text).symm, fun _ => rfl⟩
  | cut head first more behind =>
      refine ⟨_, rfl, fun impossible => ?_⟩
      cases behind <;> cases impossible

end Layout

theorem exists_of_endsInWord_eq_false {text : Text} (nonempty : text ≠ [])
    (blankEnd : endsInWord text = false) :
    Exists fun front : Text => Exists fun c : Char => text = front ++ [c] ∧ isBlank c = true := by
  refine ⟨text.dropLast, text.getLast nonempty, (List.dropLast_append_getLast nonempty).symm, ?_⟩
  rw [endsInWord, List.getLast?_eq_some_getLast nonempty] at blankEnd
  simpa using blankEnd

theorem exists_of_startsInWord_eq_false {text : Text} (nonempty : text ≠ [])
    (blankStart : startsInWord text = false) :
    Exists fun c : Char => Exists fun back : Text => text = c :: back ∧ isBlank c = true := by
  cases text with
  | nil => exact False.elim (nonempty rfl)
  | cons c back =>
      refine ⟨c, back, rfl, ?_⟩
      rw [startsInWord] at blankStart
      simpa using blankStart

/-- At a closed seam one side is empty or a blank stands there: the end of the left side, the start
of the right side, or the space that was put between them. -/
theorem gap_cases (left right : Text) :
    (left = [] ∧ gap left right = []) ∨ (right = [] ∧ gap left right = []) ∨
      (gap left right = [] ∧ Exists fun front : Text => Exists fun c : Char =>
        left = front ++ [c] ∧ isBlank c = true) ∨
      (gap left right = [] ∧ Exists fun c : Char => Exists fun back : Text =>
        right = c :: back ∧ isBlank c = true) ∨
      gap left right = [' '] := by
  by_cases leftEmpty : left = []
  · left
    rw [leftEmpty]
    exact ⟨rfl, rfl⟩
  by_cases rightEmpty : right = []
  · right
    left
    rw [rightEmpty]
    exact ⟨rfl, gap_nil_right left⟩
  right
  right
  rw [gap]
  cases ends : endsInWord left with
  | false =>
      left
      exact ⟨rfl, exists_of_endsInWord_eq_false leftEmpty ends⟩
  | true =>
      right
      cases starts : startsInWord right with
      | false =>
          left
          exact ⟨rfl, exists_of_startsInWord_eq_false rightEmpty starts⟩
      | true =>
          right
          rfl

/-- Texts on the two sides of a closed seam are laid out apart. -/
theorem layout_gap (left right : Text) :
    layout false (left ++ (gap left right ++ right)) =
      (layout false left).append ((layout false right).prepend (gap left right)) := by
  rcases gap_cases left right with ⟨empty, none⟩ | ⟨empty, none⟩ | ⟨none, front, c, parts, blank⟩ |
    ⟨none, c, back, parts, blank⟩ | space
  · rw [none, empty, layout_nil, Layout.plain_append, Layout.prepend_nil, Layout.prepend_nil]
    rfl
  · rw [none, empty, layout_nil, List.append_nil, List.append_nil, Layout.prepend,
      List.append_nil, Layout.append_plain_nil]
  · have apart := layout_append_blank false front right blank
    have alone := layout_append_blank false front [] blank
    rw [layout_nil, Layout.prepend, List.append_nil] at alone
    rw [none, Layout.prepend_nil, parts, alone, Layout.append_assoc, Layout.plain_append, ← apart,
      List.append_assoc]
    rfl
  · rw [none, Layout.prepend_nil, parts, layout_blank_cons false back blank,
      ← layout_append_blank false left back blank]
    rfl
  · rw [space]
    exact layout_append_blank false left right (show isBlank ' ' = true from rfl)

/-- What a text and its pieces around a seam have to do with one another. -/
theorem exists_layout_join (left right : Text) :
    Exists fun behind : Text => Exists fun before : Text =>
      (forall c, c ∈ behind -> isLineBlank c = true) ∧
      (forall c, c ∈ before -> isLineBlank c = true) ∧
      layout false left = (layout false (beforeSeam left)).append (.plain behind) ∧
      layout false right = (layout false (afterSeam right)).prepend before := by
  rcases exists_trimEndOf_append isLineBlank left with ⟨behind, leftParts, behindBlank⟩
  rcases exists_append_trimStartOf isLineBlank right with ⟨before, rightParts, beforeBlank⟩
  have leftLayout := layout_append_border false (beforeSeam left)
    (fun c member => isBlank_of_isLineBlank (behindBlank c member))
  have rightLayout := layout_border_append (afterSeam right)
    (fun c member => isBlank_of_isLineBlank (beforeBlank c member))
  rw [beforeSeam, ← leftParts] at leftLayout
  rw [afterSeam, ← rightParts] at rightLayout
  exact ⟨behind, before, behindBlank, beforeBlank, leftLayout, rightLayout⟩

/-- The chains of two joined pieces are those of the one and then those of the other. -/
theorem chains_join (left right : Text) : chains (join left right) = chains left ++ chains right := by
  rcases exists_layout_join left right with ⟨behind, before, _, _, leftLayout, rightLayout⟩
  rw [chains, chains, chains, join_eq, layout_gap, leftLayout, rightLayout, Layout.chains_append,
    Layout.chains_append, Layout.chains_prepend, Layout.chains_prepend, Layout.chains,
    List.append_nil]

/-- The gap of a seam is the one that the residue asks for, or it stands next to a chain. -/
theorem gap_decided (left right : Text) (leftLayout rightLayout : Layout)
    (leftText : leftLayout.text = left) (rightText : rightLayout.text = right) :
    gap left right = gap leftLayout.last rightLayout.head ∨
      (leftLayout.last = [] ∧ leftLayout.front ≠ []) ∨
      (rightLayout.head = [] ∧ rightLayout.back ≠ []) := by
  rcases leftLayout.exists_text_eq_append_last with ⟨before, leftParts, alone⟩
  rcases rightLayout.exists_text_eq_head_append_back with ⟨behind, rightParts, aloneToo⟩
  rw [leftText] at leftParts
  rw [rightText] at rightParts
  by_cases lastEmpty : leftLayout.last = []
  · by_cases frontEmpty : leftLayout.front = []
    · rw [alone frontEmpty, lastEmpty] at leftParts
      rw [leftParts, lastEmpty]
      exact Or.inl rfl
    · exact Or.inr (Or.inl ⟨lastEmpty, frontEmpty⟩)
  · by_cases headEmpty : rightLayout.head = []
    · by_cases backEmpty : rightLayout.back = []
      · rw [aloneToo backEmpty, headEmpty] at rightParts
        rw [rightParts, headEmpty]
        exact Or.inl ((gap_nil_right left).trans (gap_nil_right _).symm)
      · exact Or.inr (Or.inr ⟨headEmpty, backEmpty⟩)
    · left
      rw [leftParts, rightParts, gap_append_left before _ lastEmpty,
        gap_append_right _ behind headEmpty]

/-- The residue of two joined pieces is the join of their residues. -/
theorem residue_join (left right : Text) :
    residue (join left right) = join (residue left) (residue right) := by
  rcases exists_layout_join left right with
    ⟨behind, before, behindBlank, beforeBlank, leftLayout, rightLayout⟩
  have leftText := text_layout false (beforeSeam left)
  have rightText := text_layout false (afterSeam right)
  have leftKept : beforeSeam (layout false (beforeSeam left)).last =
      (layout false (beforeSeam left)).last := by
    rcases (layout false (beforeSeam left)).exists_text_eq_append_last with ⟨front, parts, _⟩
    apply trimEndOf_suffix front
    rw [← parts, leftText]
    exact trimEndOf_idem left
  have rightKept : afterSeam (layout false (afterSeam right)).head =
      (layout false (afterSeam right)).head := by
    rcases (layout false (afterSeam right)).exists_text_eq_head_append_back with ⟨back, parts, _⟩
    apply trimStartOf_prefix back
    rw [← parts, rightText]
    exact trimStartOf_idem right
  have decided := gap_decided (beforeSeam left) (afterSeam right) _ _ leftText rightText
  have joined : residue (join left right) =
      joinAll ((layout false (beforeSeam left)).front ++
        ((layout false (beforeSeam left)).last ++
            (gap (beforeSeam left) (afterSeam right) ++ (layout false (afterSeam right)).head)) ::
          (layout false (afterSeam right)).back) := by
    rw [residue, join_eq, layout_gap, Layout.pieces_append, Layout.head_prepend,
      Layout.back_prepend]
  have leftPieces : (layout false left).pieces = (layout false (beforeSeam left)).front ++
      [(layout false (beforeSeam left)).last ++ behind] := by
    rw [leftLayout, Layout.pieces_append]
    rfl
  have rightPieces : (layout false right).pieces =
      (before ++ (layout false (afterSeam right)).head) :: (layout false (afterSeam right)).back := by
    rw [rightLayout, Layout.pieces_prepend]
  have apart : (layout false left).pieces ++ (layout false right).pieces =
      (layout false (beforeSeam left)).front ++
        ((layout false (beforeSeam left)).last ++ behind) ::
          (before ++ (layout false (afterSeam right)).head) ::
            (layout false (afterSeam right)).back := by
    rw [leftPieces, rightPieces, List.append_assoc]
    rfl
  calc residue (join left right) = joinAll ((layout false left).pieces ++ (layout false right).pieces) := by
        rw [joined, apart, joinAll_seam _ _ leftKept rightKept isLineBlank_of_mem_gap behindBlank
          beforeBlank decided]
    _ = join (residue left) (residue right) :=
        joinAll_append (layout false left).pieces_ne_nil (layout false right).pieces_ne_nil

theorem chains_nil : chains [] = [] := by
  rw [chains, layout_nil]
  rfl

theorem chains_joinAll (pieces : List Text) : chains (joinAll pieces) = pieces.flatMap chains :=
  flatMap_joinAll chains chains_nil chains_join pieces

theorem residue_joinAll (pieces : List Text) :
    residue (joinAll pieces) = joinAll (pieces.map residue) := by
  induction pieces with
  | nil => rw [residue, joinAll, layout_nil]; rfl
  | cons piece pieces inductionHypothesis =>
      by_cases empty : pieces = []
      · subst empty
        rfl
      · rw [joinAll_cons piece empty, residue_join, inductionHypothesis, List.map_cons,
          joinAll_cons (residue piece) (by simpa using empty)]

/-! ## Blanks at the ends of a text -/

theorem Layout.pieces_eq (l : Layout) : l.pieces = l.front ++ [l.last] := by
  induction l with
  | plain text => rfl
  | cut head first more behind inductionHypothesis =>
      exact congrArg (head :: ·) inductionHypothesis

/-- A blank border before a text changes its residue only in front. -/
theorem trim_residue_border_append (text : Text) {border : Text}
    (blank : forall c, c ∈ border -> isBlank c = true) :
    trim (residue (border ++ text)) = trim (residue text) := by
  rw [residue, residue, layout_border_append text blank, Layout.pieces_prepend,
    Layout.pieces_eq_head_back]
  by_cases empty : (layout false text).back = []
  · rw [empty]
    exact trim_border_append _ blank
  · rw [joinAll_cons _ empty, joinAll_cons _ empty]
    exact trim_border_append_join _ _ blank

/-- A blank border behind a text changes its residue only at the end. -/
theorem trim_residue_append_border (text : Text) {border : Text}
    (blank : forall c, c ∈ border -> isBlank c = true) :
    trim (residue (text ++ border)) = trim (residue text) := by
  rw [residue, residue, layout_append_border false text blank, Layout.pieces_append,
    Layout.pieces_eq]
  by_cases empty : (layout false text).front = []
  · rw [empty]
    exact trim_append_border _ blank
  · rw [joinAll_append empty (List.cons_ne_nil _ _), joinAll_append empty (List.cons_ne_nil _ _)]
    exact trim_join_append_border _ _ blank

theorem exists_borders (text : Text) :
    Exists fun front : Text => Exists fun back : Text => text = front ++ (trim text ++ back) ∧
      (forall c, c ∈ front -> isBlank c = true) ∧ forall c, c ∈ back -> isBlank c = true := by
  rcases exists_append_trimStartOf isBlank text with ⟨front, frontParts, frontBlank⟩
  rcases exists_trimEndOf_append isBlank (trimStart text) with ⟨back, backParts, backBlank⟩
  refine ⟨front, back, ?_, frontBlank, backBlank⟩
  rw [trim, trimEnd, ← backParts]
  exact frontParts

/-- Trimming touches no chain. -/
theorem chains_trim (text : Text) : chains (trim text) = chains text := by
  refine value_trim chains (fun text _ blank => ?_) (fun text _ blank => ?_) text
  · rw [chains, chains, layout_border_append text blank, Layout.chains_prepend]
  · rw [chains, chains, layout_append_border false text blank, Layout.chains_append, Layout.chains,
      List.append_nil]

/-- Trimming before the removal does not show after trimming. -/
theorem trim_residue_trim (text : Text) : trim (residue (trim text)) = trim (residue text) :=
  value_trim (fun text => trim (residue text)) trim_residue_border_append trim_residue_append_border
    text

end Tag
end Switchboard
