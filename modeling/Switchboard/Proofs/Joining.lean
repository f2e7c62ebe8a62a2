import Switchboard.Proofs.Trimming
import Switchboard.Tag.Removal

namespace Switchboard
namespace Tag

open Text

/-!
# Joining pieces is associative

A seam takes the line blanks around it and gives one space back where it would otherwise run two
words together.  What comes out therefore does not depend on the order in which the seams of a text
are closed: a piece of line blanks alone disappears, and any other piece keeps the characters at
which the seams on its two sides are decided.

This is why removing the tags of a chain one round after another leaves the same text as removing
the whole chain at once.  A line blank at the border of a piece is invisible to the seam next to
it, and a blank at an end of the whole text is invisible after trimming.
-/

/-- A piece as a seam behind it leaves it. -/
def beforeSeam (piece : Text) : Text := trimEndOf isLineBlank piece

/-- A piece as a seam in front of it leaves it. -/
def afterSeam (piece : Text) : Text := trimStartOf isLineBlank piece

/-- What a seam puts between two pieces that have lost the line blanks around it. -/
def gap (left right : Text) : Text := if endsInWord left && startsInWord right then [' '] else []

theorem join_eq (left right : Text) :
    join left right =
      beforeSeam left ++ (gap (beforeSeam left) (afterSeam right) ++ afterSeam right) := by
  rw [gap]
  cases decided : endsInWord (beforeSeam left) && startsInWord (afterSeam right)
  · rw [join, if_neg (by rw [← beforeSeam, ← afterSeam, decided]; exact Bool.false_ne_true)]
    rfl
  · rw [join, if_pos (by rw [← beforeSeam, ← afterSeam, decided])]
    rfl

theorem endsInWord_append (left : Text) {right : Text} (nonempty : right ≠ []) :
    endsInWord (left ++ right) = endsInWord right := by
  rw [endsInWord, endsInWord, List.getLast?_append, List.getLast?_eq_some_getLast nonempty]
  rfl

theorem startsInWord_append {left : Text} (right : Text) (nonempty : left ≠ []) :
    startsInWord (left ++ right) = startsInWord left := by
  cases left with
  | nil => exact False.elim (nonempty rfl)
  | cons c text => rfl

/-- A gap holds line blanks only. -/
theorem isLineBlank_of_mem_gap {left right : Text} :
    forall c, c ∈ gap left right -> isLineBlank c = true := by
  intro c member
  rw [gap] at member
  split at member
  · rw [List.mem_singleton.mp member]
    rfl
  · cases member

theorem gap_nil_left (right : Text) : gap [] right = [] := rfl

theorem gap_nil_right (left : Text) : gap left [] = [] := by
  rw [gap, startsInWord, List.head?_nil, Bool.and_false]
  rfl

theorem gap_append_left (left : Text) {middle : Text} (right : Text) (nonempty : middle ≠ []) :
    gap (left ++ middle) right = gap middle right := by
  rw [gap, gap, endsInWord_append left nonempty]

theorem gap_append_right (left : Text) {middle : Text} (right : Text) (nonempty : middle ≠ []) :
    gap left (middle ++ right) = gap left middle := by
  rw [gap, gap, startsInWord_append right nonempty]

/-! ## Line blanks next to a seam -/

theorem join_append_border (left right : Text) {border : Text}
    (blank : forall c, c ∈ border -> isLineBlank c = true) :
    join (left ++ border) right = join left right := by
  rw [join_eq, join_eq, beforeSeam, trimEndOf_append_border left blank]
  rfl

theorem join_border_append (left right : Text) {border : Text}
    (blank : forall c, c ∈ border -> isLineBlank c = true) :
    join left (border ++ right) = join left right := by
  rw [join_eq, join_eq, afterSeam, trimStartOf_border_append right blank]
  rfl

theorem join_beforeSeam (left right : Text) : join (beforeSeam left) right = join left right :=
  value_trimEndOf (join · right) (fun left _ blank => join_append_border left right blank) left

theorem join_afterSeam (left right : Text) : join left (afterSeam right) = join left right :=
  value_trimStartOf (join left) (join_border_append left) right

/-- A right piece of line blanks alone takes the line blanks before it and disappears. -/
theorem join_border (left : Text) {border : Text}
    (blank : forall c, c ∈ border -> isLineBlank c = true) :
    join left border = beforeSeam left := by
  rw [join_eq, afterSeam, trimStartOf_eq_nil blank, gap_nil_right, List.append_nil, List.append_nil]

/-- A left piece of line blanks alone takes the line blanks behind it and disappears. -/
theorem border_join (right : Text) {border : Text}
    (blank : forall c, c ∈ border -> isLineBlank c = true) :
    join border right = afterSeam right := by
  rw [join_eq, beforeSeam, trimEndOf_eq_nil blank, gap_nil_left]
  rfl

theorem join_nil_left (right : Text) : join [] right = afterSeam right :=
  border_join right (fun _ member => absurd member List.not_mem_nil)

/-! ## Associativity -/

/-- A core is a text that no seam takes anything from. -/
structure IsCore (core : Text) : Prop where
  nonempty : core ≠ []
  before : beforeSeam core = core
  after : afterSeam core = core

/-- A piece is line blanks alone, or it has a core and line blanks around it. -/
theorem lineBlanks_or_core (piece : Text) :
    (forall c, c ∈ piece -> isLineBlank c = true) ∨
      Exists fun front : Text => Exists fun core : Text => Exists fun back : Text =>
        piece = front ++ (core ++ back) ∧ IsCore core ∧
          (forall c, c ∈ front -> isLineBlank c = true) ∧
          (forall c, c ∈ back -> isLineBlank c = true) := by
  rcases exists_append_trimStartOf isLineBlank piece with ⟨front, frontParts, frontBlank⟩
  rcases exists_trimEndOf_append isLineBlank (afterSeam piece) with ⟨back, backParts, backBlank⟩
  by_cases empty : beforeSeam (afterSeam piece) = []
  · left
    intro c member
    rw [frontParts] at member
    rcases List.mem_append.mp member with inFront | inside
    · exact frontBlank c inFront
    · exact forall_of_trimEndOf_eq_nil empty c inside
  · right
    refine ⟨front, beforeSeam (afterSeam piece), back, ?_, ⟨empty, trimEndOf_idem _, ?_⟩, frontBlank,
      backBlank⟩
    · rw [beforeSeam, ← backParts]
      exact frontParts
    · exact trimStartOf_trimEndOf (trimStartOf_idem piece)

/-- A seam behind a core takes nothing from it, and the core decides the gap. -/
theorem append_core_join (front : Text) {core : Text} (right : Text) (isCore : IsCore core) :
    join (front ++ core) right =
      front ++ (core ++ (gap core (afterSeam right) ++ afterSeam right)) := by
  have kept : beforeSeam (front ++ core) = front ++ core := by
    rw [beforeSeam, trimEndOf_append_of_ne_nil, ← beforeSeam, isCore.before]
    rw [← beforeSeam, isCore.before]
    exact isCore.nonempty
  rw [join_eq, kept, gap_append_left front _ isCore.nonempty, List.append_assoc]

/-- A seam in front of a core takes nothing from it, and the core decides the gap. -/
theorem join_core_append (left : Text) {core : Text} (back : Text) (isCore : IsCore core) :
    join left (core ++ back) =
      beforeSeam left ++ (gap (beforeSeam left) core ++ (core ++ back)) := by
  have kept : afterSeam (core ++ back) = core ++ back := by
    rw [afterSeam, trimStartOf_append_of_ne_nil, ← afterSeam, isCore.after]
    rw [← afterSeam, isCore.after]
    exact isCore.nonempty
  rw [join_eq, kept, gap_append_right _ back isCore.nonempty]

/-- Seams can be closed in any order. -/
theorem join_assoc (left middle right : Text) :
    join (join left middle) right = join left (join middle right) := by
  -- A middle piece without a core disappears on both sides; a core decides both gaps.
  rcases lineBlanks_or_core middle with blank | ⟨front, core, back, parts, isCore, frontBlank, backBlank⟩
  · rw [join_border left blank, border_join right blank, join_beforeSeam, join_afterSeam]
  · have outerLeft : join (join left middle) right =
        beforeSeam left ++ (gap (beforeSeam left) core ++
          (core ++ (gap core (afterSeam right) ++ afterSeam right))) := by
      rw [parts, join_border_append left _ frontBlank, join_core_append left back isCore]
      rw [← List.append_assoc _ core back, ← List.append_assoc _ _ back,
        join_append_border _ right backBlank, ← List.append_assoc,
        append_core_join _ right isCore, List.append_assoc]
    have outerRight : join left (join middle right) =
        beforeSeam left ++ (gap (beforeSeam left) core ++
          (core ++ (gap core (afterSeam right) ++ afterSeam right))) := by
      rw [parts, ← List.append_assoc front core back, join_append_border _ right backBlank,
        append_core_join front right isCore, join_border_append left _ frontBlank,
        join_core_append left _ isCore]
    rw [outerLeft, outerRight]

instance joinAssociative : Std.Associative join := ⟨join_assoc⟩

/-! ## Joining many pieces -/

theorem joinAll_cons (piece : Text) {pieces : List Text} (nonempty : pieces ≠ []) :
    joinAll (piece :: pieces) = join piece (joinAll pieces) := by
  cases pieces with
  | nil => exact False.elim (nonempty rfl)
  | cons next rest => exact List.foldl_assoc

/-- What is read from joined pieces one after the other is read from all of them. -/
theorem flatMap_joinAll {Value : Type} (read : Text -> List Value) (nothing : read [] = [])
    (joined : forall left right, read (join left right) = read left ++ read right)
    (pieces : List Text) : read (joinAll pieces) = pieces.flatMap read := by
  induction pieces with
  | nil => exact nothing
  | cons piece pieces inductionHypothesis =>
      by_cases last : pieces = []
      · rw [last]
        exact (List.append_nil (read piece)).symm
      · rw [joinAll_cons piece last, joined, inductionHypothesis, List.flatMap_cons]

theorem joinAll_append {left right : List Text} (leftNonempty : left ≠ [])
    (rightNonempty : right ≠ []) :
    joinAll (left ++ right) = join (joinAll left) (joinAll right) := by
  induction left with
  | nil => exact False.elim (leftNonempty rfl)
  | cons piece rest inductionHypothesis =>
      by_cases single : rest = []
      · subst single
        exact joinAll_cons piece rightNonempty
      · have restNonempty : rest ++ right ≠ [] := by
          intro empty
          exact single (List.append_eq_nil_iff.mp empty).1
        rw [List.cons_append, joinAll_cons piece restNonempty, inductionHypothesis single,
          joinAll_cons piece single, join_assoc]

/-- One seam can be closed before all others. -/
theorem joinAll_two (front back : List Text) (left right : Text) :
    joinAll (front ++ left :: right :: back) = joinAll (front ++ join left right :: back) := by
  cases front with
  | nil => rfl
  | cons piece front =>
      rw [List.cons_append, List.cons_append, joinAll, joinAll, List.foldl_append,
        List.foldl_append, List.foldl_cons, List.foldl_cons, List.foldl_cons, join_assoc]

/-- A piece may be exchanged for another one if the two are equal, or equal as far as the seam in
front of them or the seam behind them can see. -/
theorem joinAll_replace (front back : List Text) {old new : Text}
    (same : new = old ∨ (front ≠ [] ∧ forall left, join left new = join left old) ∨
      (back ≠ [] ∧ forall right, join new right = join old right)) :
    joinAll (front ++ new :: back) = joinAll (front ++ old :: back) := by
  rcases same with equal | ⟨nonempty, equal⟩ | ⟨nonempty, equal⟩
  · rw [equal]
  · cases front with
    | nil => exact False.elim (nonempty rfl)
    | cons piece front =>
        rw [List.cons_append, List.cons_append, joinAll, joinAll, List.foldl_append,
          List.foldl_append, List.foldl_cons, List.foldl_cons, equal]
  · cases back with
    | nil => exact False.elim (nonempty rfl)
    | cons next back => rw [joinAll_two, joinAll_two, equal]

/-- Two pieces with their seam closed by a given gap.  The gap must be the one the pieces ask for,
unless the piece on one side of it is empty: then another seam stands next to it. -/
theorem joinAll_seam (front back : List Text) {left right between behind before : Text}
    (leftKept : beforeSeam left = left) (rightKept : afterSeam right = right)
    (betweenBlank : forall c, c ∈ between -> isLineBlank c = true)
    (behindBlank : forall c, c ∈ behind -> isLineBlank c = true)
    (beforeBlank : forall c, c ∈ before -> isLineBlank c = true)
    (decided : between = gap left right ∨ (left = [] ∧ front ≠ []) ∨ (right = [] ∧ back ≠ [])) :
    joinAll (front ++ (left ++ (between ++ right)) :: back) =
      joinAll (front ++ (left ++ behind) :: (before ++ right) :: back) := by
  rw [joinAll_two, join_append_border left _ behindBlank, join_border_append left right beforeBlank]
  apply joinAll_replace
  rcases decided with asked | ⟨empty, nonempty⟩ | ⟨empty, nonempty⟩
  · left
    rw [join_eq, leftKept, rightKept, asked]
  · right
    left
    refine ⟨nonempty, fun outer => ?_⟩
    rw [empty, List.nil_append, join_border_append outer right betweenBlank, join_nil_left,
      join_afterSeam]
  · right
    right
    refine ⟨nonempty, fun outer => ?_⟩
    rw [empty, List.append_nil, join_append_border left outer betweenBlank,
      join_border left (fun _ member => absurd member List.not_mem_nil), join_beforeSeam]

/-! ## Blanks at the ends of the joined text -/

theorem endsInWord_eq_false {text : Text} (blank : forall c, c ∈ text -> isBlank c = true) :
    endsInWord text = false := by
  cases last : text.getLast? with
  | none => rw [endsInWord, last]
  | some c =>
      rw [endsInWord, last]
      exact congrArg (!·) (blank c (List.mem_of_getLast? last))

theorem startsInWord_eq_false {text : Text} (blank : forall c, c ∈ text -> isBlank c = true) :
    startsInWord text = false := by
  cases text with
  | nil => rfl
  | cons c rest => exact congrArg (!·) (blank c List.mem_cons_self)

/-- Blanks before the first piece do not show once the joined text is trimmed. -/
theorem trim_border_append_join (left right : Text) {border : Text}
    (blank : forall c, c ∈ border -> isBlank c = true) :
    trim (join (border ++ left) right) = trim (join left right) := by
  by_cases empty : beforeSeam left = []
  · have leftBlank := forall_of_trimEndOf_eq_nil empty
    rcases exists_trimEndOf_append isLineBlank border with ⟨back, parts, _⟩
    have beforeBlank : forall c, c ∈ beforeSeam border -> isBlank c = true := by
      intro c member
      exact blank c (parts ▸ List.mem_append_left back member)
    rw [join_append_border border right leftBlank, border_join right leftBlank, join_eq, gap,
      endsInWord_eq_false beforeBlank]
    exact trim_border_append (afterSeam right) beforeBlank
  · have kept : beforeSeam (border ++ left) = border ++ beforeSeam left :=
      trimEndOf_append_of_ne_nil border empty
    rw [join_eq, kept, gap_append_left border _ empty, List.append_assoc, ← join_eq]
    exact trim_border_append (join left right) blank

/-- Blanks behind the last piece do not show once the joined text is trimmed. -/
theorem trim_join_append_border (left right : Text) {border : Text}
    (blank : forall c, c ∈ border -> isBlank c = true) :
    trim (join left (right ++ border)) = trim (join left right) := by
  by_cases empty : afterSeam right = []
  · have rightBlank := forall_of_trimStartOf_eq_nil empty
    rcases exists_append_trimStartOf isLineBlank border with ⟨front, parts, _⟩
    have afterBlank : forall c, c ∈ afterSeam border -> isBlank c = true := by
      intro c member
      exact blank c (parts ▸ List.mem_append_right front member)
    rw [join_border_append left border rightBlank, join_border left rightBlank, join_eq, gap,
      startsInWord_eq_false afterBlank, Bool.and_false]
    exact trim_append_border (beforeSeam left) afterBlank
  · have kept : afterSeam (right ++ border) = afterSeam right ++ border :=
      trimStartOf_append_of_ne_nil border empty
    rw [join_eq, kept, gap_append_right _ border empty, ← List.append_assoc, ← List.append_assoc,
      List.append_assoc (beforeSeam left), ← join_eq]
    exact trim_append_border (join left right) blank

end Tag
end Switchboard
