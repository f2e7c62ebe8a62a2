import Switchboard.Proofs.Extraction

namespace Switchboard

/-!
# Tags in texts that are written one to a line

A message may come as several texts.  What it is decided by is their sequence with a line break
between neighbours, while tags are taken out of each text on its own.  A line break is a blank, so
no tag extends over it and no tag is glued by it: the chains of the whole are the chains of the
texts in turn, and the tag that decides on the whole decides on one of the texts.
-/

namespace Text

theorem joinWith_cons (separator part : Text) {parts : List Text} (nonempty : parts ≠ []) :
    joinWith separator (part :: parts) = part ++ (separator ++ joinWith separator parts) := by
  cases parts with
  | nil => exact False.elim (nonempty rfl)
  | cons next rest => exact List.append_assoc part separator _

theorem isBlank_lineBreak : isBlank '\n' = true := rfl

/-- What is read from two texts one after the other, if a line break stands between them, is read
from lines one after the other. -/
theorem flatMap_lines {Value : Type} (read : Text -> List Value) (nothing : read [] = [])
    (cut : forall left right, read (left ++ '\n' :: right) = read left ++ read right)
    (texts : List Text) : read (joinWith ['\n'] texts) = texts.flatMap read := by
  induction texts with
  | nil => exact nothing
  | cons text texts inductionHypothesis =>
      by_cases last : texts = []
      · rw [last]
        exact (List.append_nil (read text)).symm
      · rw [joinWith_cons _ text last, List.flatMap_cons, ← inductionHypothesis]
        exact cut text (joinWith ['\n'] texts)

theorem trimStart_blank_append {text : Text} (blank : isBlankText text = true) (rest : Text) :
    trimStart (text ++ rest) = trimStart rest :=
  trimStartOf_border_append rest ((isBlankText_iff text).mp blank)

theorem trimStart_eq_nil_iff (text : Text) : trimStart text = [] ↔ isBlankText text = true := by
  rw [isBlankText_iff]
  exact ⟨forall_of_trimStartOf_eq_nil, trimStartOf_eq_nil⟩

theorem trimStart_append {text : Text} (filled : isBlankText text = false) (rest : Text) :
    trimStart (text ++ rest) = trimStart text ++ rest := by
  apply trimStartOf_append_of_ne_nil
  intro empty
  rw [(trimStart_eq_nil_iff text).mp empty] at filled
  cases filled

end Text

namespace Tag

open Text

/-! ## Anywhere -/

theorem chains_append_blank (left right : Text) {c : Char} (blank : isBlank c = true) :
    chains (left ++ c :: right) = chains left ++ chains right := by
  rw [chains, layout_append_blank false left right blank, Layout.chains_append,
    Layout.chains_prepend]
  rfl

theorem chains_lines (texts : List Text) :
    chains (joinWith ['\n'] texts) = texts.flatMap chains :=
  flatMap_lines chains chains_nil
    (fun left right => chains_append_blank left right isBlank_lineBreak) texts

theorem written_findAll (text : Text) :
    (findAll text).map (·.written) = (chains text).filterMap (·[0]?) := by
  rw [findAll_eq, Layout.written_found]
  rfl

theorem written_findAll_lines (texts : List Text) :
    (findAll (joinWith ['\n'] texts)).map (·.written) =
      texts.flatMap fun text => (findAll text).map (·.written) := by
  rw [written_findAll, chains_lines, List.filterMap_flatMap]
  apply List.flatMap_congr
  intro text _
  exact (written_findAll text).symm

theorem findAll_lines_eq_nil_iff (texts : List Text) :
    findAll (joinWith ['\n'] texts) = [] ↔ forall text, text ∈ texts -> findAll text = [] := by
  rw [← List.map_eq_nil_iff, written_findAll_lines, List.flatMap_eq_nil_iff]
  simp only [List.map_eq_nil_iff]

/-- Anywhere, the tag that decides on the whole is the one that decides on the first text with
one. -/
theorem deciding?_anywhere_lines (texts : List Text) :
    deciding? .anywhere (joinWith ['\n'] texts) = texts.findSome? (deciding? .anywhere) := by
  have headWritten : forall text, deciding? .anywhere text = ((findAll text).map (·.written)).head? :=
    fun text => List.head?_map.symm
  rw [headWritten, written_findAll_lines, List.head?_flatMap]
  simp only [← headWritten]

/-! ## At the start -/

/-- The first text that is not blank. -/
def firstFilled? (texts : List Text) : Option Text := texts.find? fun text => !isBlankText text

theorem firstFilled?_cons_blank {text : Text} (texts : List Text) (blank : isBlankText text = true) :
    firstFilled? (text :: texts) = firstFilled? texts :=
  List.find?_cons_of_neg (by rw [blank]; exact Bool.false_ne_true)

theorem firstFilled?_cons_filled {text : Text} (texts : List Text)
    (filled : isBlankText text = false) : firstFilled? (text :: texts) = some text :=
  List.find?_cons_of_pos (by rw [filled]; rfl)

theorem deciding?_start_of_blank {text : Text} (blank : isBlankText text = true) :
    deciding? .start text = none := by
  rw [deciding?, (trimStart_eq_nil_iff text).mpr blank]
  rfl

/-- At the start, the tag that decides on the whole decides on the first text that is not blank. -/
theorem deciding?_start_lines (texts : List Text) :
    deciding? .start (joinWith ['\n'] texts) = (firstFilled? texts).bind (deciding? .start) := by
  induction texts with
  | nil => rfl
  | cons text texts inductionHypothesis =>
      cases blank : isBlankText text with
      | true =>
          rw [firstFilled?_cons_blank texts blank, ← inductionHypothesis]
          by_cases last : texts = []
          · rw [last]
            exact deciding?_start_of_blank blank
          · rw [joinWith_cons _ text last, deciding?, trimStart_blank_append blank]
            rfl
      | false =>
          rw [firstFilled?_cons_filled texts blank, Option.bind_some]
          by_cases last : texts = []
          · rw [last]
            rfl
          · rw [joinWith_cons _ text last, deciding?, trimStart_append blank]
            exact read?_append_blank (trimStart text) _ isBlank_lineBreak

end Tag
end Switchboard
