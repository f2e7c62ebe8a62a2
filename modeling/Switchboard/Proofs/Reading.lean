import Mathlib.Data.List.Forall2
import Switchboard.Proofs.Blanks
import Switchboard.Proofs.Letters
import Switchboard.Tag.Basic

namespace Switchboard
namespace Tag

open Text

/-!
# What a tag is, as a property of the text

A tag is an opening bracket, a word that spells one of the four tag words without regard to case,
and a closing bracket.  `read?_eq_some_iff` says that reading finds exactly this, whatever follows
the tag, so later arguments use the shape of the text and never the reader.

The characters of a tag word are no blanks and no brackets.  Hence the word of a tag is determined
by the text, and a blank ends whatever the text before it could still have become: reading up to a
blank is reading (`read?_append_blank`).
-/

/-- The characters of a tag with the given word. -/
def tagged (written : Text) : Text := '[' :: (written ++ [']'])

/-- A word that a tag may hold: one of the tag words, letter by letter without regard to case. -/
def IsTagWord (written : Text) : Prop :=
  Exists fun word : Text => word ∈ words ∧
    List.Forall₂ (fun letter c => sameLetter letter c = true) word written

theorem length_tagged (written : Text) : (tagged written).length = width written := by
  rw [tagged, List.length_cons, List.length_append, width]
  rfl

/-! ## The characters of a tag word -/

/-- Whether a tag word shows a small i without a dot or a capital i with one. -/
def hasForeignI (written : Text) : Bool := written.contains dotlessI || written.contains dottedI

theorem mem_letters : forall word, word ∈ words -> forall letter, letter ∈ word ->
    letter ∈ letters := by
  have checked : (words.all fun word => word.all fun letter => letters.contains letter) = true := by
    decide
  simpa only [List.all_eq_true, List.contains_iff_mem] using checked

theorem letter_of_sameLetter {word : Text} (listed : word ∈ words) {letter c : Char}
    (member : letter ∈ word) (same : sameLetter letter c = true) :
    (isBlank c = false ∧ c ≠ '[' ∧ c ≠ ']') ∧
      (c = dotlessI ∨ c = dottedI ∨ (lowerChar c = letter ∧ c ≠ Char.ofNat 0x3A3)) := by
  have isLetter := mem_letters word listed letter member
  have spelled := mem_spellings_of_sameLetter (letters_low letter isLetter) same
  exact letters_spelled letter isLetter c spelled same

theorem exists_letter_of_mem {word written : Text}
    (spelled : List.Forall₂ (fun letter c => sameLetter letter c = true) word written) {c : Char}
    (member : c ∈ written) : Exists fun letter : Char => letter ∈ word ∧ sameLetter letter c = true := by
  induction spelled with
  | nil => cases member
  | cons same rest inductionHypothesis =>
      rcases List.mem_cons.mp member with here | later
      · exact ⟨_, List.mem_cons_self, here ▸ same⟩
      · rcases inductionHypothesis later with ⟨letter, listed, matched⟩
        exact ⟨letter, List.mem_cons_of_mem _ listed, matched⟩

/-- No character of a tag word is a blank or a bracket. -/
theorem IsTagWord.plain {written : Text} (isWord : IsTagWord written) {c : Char}
    (member : c ∈ written) : isBlank c = false ∧ c ≠ '[' ∧ c ≠ ']' := by
  rcases isWord with ⟨word, listed, spelled⟩
  rcases exists_letter_of_mem spelled member with ⟨letter, inWord, same⟩
  exact (letter_of_sameLetter listed inWord same).1

/-- No character of a tag is a blank. -/
theorem IsTagWord.tagged_not_blank {written : Text} (isWord : IsTagWord written) {c : Char}
    (member : c ∈ tagged written) : isBlank c = false := by
  rcases List.mem_cons.mp member with opening | later
  · rw [opening]
    rfl
  · rcases List.mem_append.mp later with inside | closing
    · exact (isWord.plain inside).1
    · rw [List.mem_singleton.mp closing]
      rfl

/-! ## Reading -/

theorem spell?_eq_some_iff {word text written rest : Text} :
    spell? word text = some (written, rest) ↔
      List.Forall₂ (fun letter c => sameLetter letter c = true) word written ∧
        text = written ++ rest := by
  induction word generalizing text written with
  | nil =>
      constructor
      · intro found
        cases found
        exact ⟨List.Forall₂.nil, rfl⟩
      · rintro ⟨spelled, parts⟩
        cases spelled
        rw [parts]
        rfl
  | cons letter word inductionHypothesis =>
      cases text with
      | nil =>
          constructor
          · intro found
            cases found
          · rintro ⟨spelled, parts⟩
            cases spelled
            cases parts
      | cons c text =>
          rw [spell?]
          constructor
          · intro found
            split at found
            · rename_i same
              rcases Option.map_eq_some_iff.mp found with ⟨⟨inner, after⟩, innerFound, equal⟩
              cases equal
              have below := inductionHypothesis.mp innerFound
              exact ⟨List.Forall₂.cons same below.1, congrArg (c :: ·) below.2⟩
            · cases found
          · rintro ⟨spelled, parts⟩
            cases spelled with
            | cons same below =>
                injection parts with headEq tailEq
                rw [headEq, if_pos same, inductionHypothesis.mpr ⟨below, tailEq⟩]
                rfl

theorem closed?_eq_some_iff {word text written : Text} :
    closed? word text = some written ↔
      List.Forall₂ (fun letter c => sameLetter letter c = true) word written ∧
        Exists fun rest : Text => text = written ++ ']' :: rest := by
  rw [closed?]
  constructor
  · intro found
    split at found
    · rename_i inner rest spelled
      cases found
      have parts := spell?_eq_some_iff.1 spelled
      exact ⟨parts.1, rest, parts.2⟩
    · cases found
  · rintro ⟨spelled, rest, parts⟩
    rw [spell?_eq_some_iff.2 ⟨spelled, parts⟩]
    rfl

/-- A word without a character is determined by where that character comes first. -/
theorem append_cons_inj {α : Type} {mark : α} {left right leftRest rightRest : List α}
    (leftFree : mark ∉ left) (rightFree : mark ∉ right)
    (same : left ++ mark :: leftRest = right ++ mark :: rightRest) : left = right := by
  induction left generalizing right with
  | nil =>
      cases right with
      | nil => rfl
      | cons c right =>
          injection same with headEq _
          exact False.elim (rightFree (headEq ▸ List.mem_cons_self))
  | cons c left inductionHypothesis =>
      cases right with
      | nil =>
          injection same with headEq _
          exact False.elim (leftFree (headEq ▸ List.mem_cons_self))
      | cons d right =>
          injection same with headEq tailEq
          rw [headEq, inductionHypothesis (fun member => leftFree (List.mem_cons_of_mem c member))
            (fun member => rightFree (List.mem_cons_of_mem d member)) tailEq]

/-- Reading finds exactly the tag that the text starts with, whatever stands behind it. -/
theorem read?_eq_some_iff {text written : Text} :
    read? text = some written ↔
      IsTagWord written ∧ Exists fun rest : Text => text = tagged written ++ rest := by
  constructor
  · intro found
    unfold read? at found
    split at found
    · rcases List.exists_of_findSome?_eq_some found with ⟨word, listed, closed⟩
      rcases closed?_eq_some_iff.1 closed with ⟨spelled, rest, parts⟩
      refine ⟨⟨word, listed, spelled⟩, rest, ?_⟩
      rw [parts, tagged, List.cons_append, List.append_assoc]
      rfl
    · cases found
  · rintro ⟨isWord, rest, parts⟩
    have shape : text = '[' :: (written ++ ']' :: rest) := by
      rw [parts, tagged, List.cons_append, List.append_assoc]
      rfl
    rw [shape, read?]
    rcases isWord with ⟨word, listed, spelled⟩
    have closed : closed? word (written ++ ']' :: rest) = some written :=
      closed?_eq_some_iff.2 ⟨spelled, rest, rfl⟩
    cases found : words.findSome? fun word => closed? word (written ++ ']' :: rest) with
    | none =>
        rw [List.findSome?_eq_none_iff] at found
        rw [found word listed] at closed
        cases closed
    | some other =>
        -- A shorter tag word may come first in the list, but the closing bracket ends both words.
        rcases List.exists_of_findSome?_eq_some found with ⟨otherWord, otherListed, otherClosed⟩
        rcases closed?_eq_some_iff.1 otherClosed with ⟨otherSpelled, otherRest, otherParts⟩
        have free : forall tagWord written : Text, tagWord ∈ words ->
            List.Forall₂ (fun letter c => sameLetter letter c = true) tagWord written ->
              ']' ∉ written := by
          intro tagWord written listed spelled member
          exact (IsTagWord.plain ⟨tagWord, listed, spelled⟩ member).2.2 rfl
        rw [append_cons_inj (free otherWord other otherListed otherSpelled)
          (free word written listed spelled) otherParts.symm]

theorem read?_tagged_append {written : Text} (isWord : IsTagWord written) (rest : Text) :
    read? (tagged written ++ rest) = some written :=
  read?_eq_some_iff.2 ⟨isWord, rest, rfl⟩

theorem read?_of_head_ne {c : Char} (text : Text) (different : c ≠ '[') :
    read? (c :: text) = none := by
  cases found : read? (c :: text) with
  | none => rfl
  | some written =>
      rcases (read?_eq_some_iff.1 found).2 with ⟨rest, parts⟩
      injection parts with headEq _
      exact False.elim (different headEq)

/-- A tag of a beginning is a tag of the whole text. -/
theorem read?_append_of_some {text written : Text} (found : read? text = some written)
    (rest : Text) : read? (text ++ rest) = some written := by
  rcases read?_eq_some_iff.1 found with ⟨isWord, after, parts⟩
  rw [parts, List.append_assoc]
  exact read?_tagged_append isWord (after ++ rest)

/-- A text without a tag at its start has no beginning with one. -/
theorem read?_eq_none_of_append {text rest : Text} (absent : read? (text ++ rest) = none) :
    read? text = none := by
  cases found : read? text with
  | none => rfl
  | some written =>
      rw [read?_append_of_some found rest] at absent
      cases absent

/-- A blank cannot be part of a tag, so the text up to it decides. -/
theorem read?_append_blank (text rest : Text) {c : Char} (blank : isBlank c = true) :
    read? (text ++ c :: rest) = read? text := by
  cases found : read? (text ++ c :: rest) with
  | some written =>
      rcases read?_eq_some_iff.1 found with ⟨isWord, after, parts⟩
      rcases List.append_eq_append_iff.mp parts with ⟨inside, tagParts, restParts⟩ | ⟨inside, textParts, _⟩
      · cases inside with
        | nil =>
            rw [List.append_nil] at tagParts
            rw [← tagParts]
            exact (read?_eq_some_iff.2 ⟨isWord, [], (List.append_nil _).symm⟩).symm
        | cons d inside =>
            injection restParts with headEq _
            have member : c ∈ tagged written := by
              rw [tagParts, headEq]
              exact List.mem_append_right _ List.mem_cons_self
            rw [isWord.tagged_not_blank member] at blank
            cases blank
      · exact (read?_eq_some_iff.2 ⟨isWord, inside, textParts⟩).symm
  | none => exact (read?_eq_none_of_append found).symm

theorem read?_blank_cons {c : Char} (text : Text) (blank : isBlank c = true) :
    read? (c :: text) = none :=
  read?_append_blank [] text blank

/-! ## Blanks do not glue -/

theorem glues_of_isBlank {c : Char} (blank : isBlank c = true) : glues c = false := by
  have different : c ≠ ']' := by
    intro same
    rw [same] at blank
    cases blank
  rw [glues, isWord_of_isBlank blank, Bool.false_or, beq_eq_false_iff_ne]
  exact different

end Tag
end Switchboard
