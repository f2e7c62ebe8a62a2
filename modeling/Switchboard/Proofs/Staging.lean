import Switchboard.Proofs.Stacking

namespace Switchboard
namespace Tag

open Text

/-!
# Leading tags first, then the rest

Removal anywhere can be staged.  Taking the tags that are stacked at the start of a text off first,
as extraction at the start does, and then all that are left, gives what one removal of all of them
gives.

The stack is taken off without a look at what stood before a tag, and blanks go with it, so a tag
behind it may come to stand where it did not stand before.  Nothing of this shows in the trimmed
residue (`trim_residue_tagged_append`): a tag at the start of a text is the first of a free chain,
the rest of this chain is a free chain once that tag is gone, and what lies behind the chain starts
with no tag, so it is laid out alike with and without the chain in front of it.  Each step of the
stack therefore keeps the trimmed residue, and removal anywhere is a function of it.
-/

/-! ## A tag at the start does not show in the trimmed residue -/

theorem trim_afterSeam (piece : Text) : trim (afterSeam piece) = trim piece :=
  value_trimStartOf trim (fun text _ blank => trim_border_append text fun c member =>
    isBlank_of_isLineBlank (blank c member)) piece

theorem trim_residue_taggedAll_append {words : List Text} {rest : Text}
    (areWords : forall w, w ∈ words -> IsTagWord w) (absent : read? rest = none) :
    trim (residue (taggedAll words ++ rest)) = trim (residue rest) := by
  cases words with
  | nil => rfl
  | cons first more =>
      have isWord := areWords first List.mem_cons_self
      have shape : residue (taggedAll (first :: more) ++ rest) = join [] (residue rest) := by
        rw [residue, taggedAll_cons, List.append_assoc, layout_chain isWord
          (fun w member => areWords w (List.mem_cons_of_mem first member)) absent,
          layout_true_of_absent absent]
        exact joinAll_cons [] (layout false rest).pieces_ne_nil
      rw [shape, join_nil_left, trim_afterSeam]

theorem trim_residue_tagged_append {written : Text} (isWord : IsTagWord written) (rest : Text) :
    trim (residue (tagged written ++ rest)) = trim (residue rest) := by
  rcases exists_eq_taggedAll_append rest with ⟨more, behind, areWords, absent, rfl⟩
  have allWords : forall w, w ∈ written :: more -> IsTagWord w :=
    List.forall_mem_cons.mpr ⟨isWord, areWords⟩
  -- The tag and the tags right behind it are one chain, and those alone are one too.
  calc trim (residue (tagged written ++ (taggedAll more ++ behind))) = trim (residue behind) := by
        rw [← List.append_assoc, ← taggedAll_cons, trim_residue_taggedAll_append allWords absent]
    _ = trim (residue (taggedAll more ++ behind)) :=
        (trim_residue_taggedAll_append areWords absent).symm

theorem trim_residue_trimStart (text : Text) :
    trim (residue (trimStart text)) = trim (residue text) :=
  value_trimStartOf (fun text => trim (residue text)) trim_residue_border_append text

/-- Taking a stack of tags off keeps the trimmed residue. -/
theorem trim_residue_dropStacked (count : Nat) (text : Text) :
    trim (residue (dropStacked count text)) = trim (residue text) := by
  induction count generalizing text with
  | zero => rfl
  | succ count inductionHypothesis =>
      rcases tagged_or_none text with absent | ⟨written, rest, isWord, parts⟩
      · rw [dropStacked_of_none absent]
      · rw [parts, dropStacked_tagged_append isWord, inductionHypothesis, trim_residue_trimStart,
          trim_residue_tagged_append isWord]

theorem trim_residue_cleaned_start (text : Text) :
    trim (residue (cleaned .start text)) = trim (residue text) := by
  rw [cleaned, trim_residue_trim, trim_residue_dropStacked, trim_residue_trimStart]

/-! ## Removal in two stages -/

/-- Of a trimmed text, removal anywhere leaves the trimmed residue, whether it holds a tag or not. -/
theorem removeAll_of_trimmed {text : Text} (trimmed : trim text = text) :
    removeAll text = trim (residue text) := by
  by_cases absent : findAll text = []
  · rw [removeAll_of_findAll_eq_nil absent,
      residue_of_chains_eq_nil ((findAll_eq_nil_iff text).mp absent), trimmed]
  · exact removeAll_eq absent

/-- A tag that decides at the start decides anywhere. -/
theorem deciding?_anywhere_of_start {text written : Text}
    (found : deciding? .start text = some written) : deciding? .anywhere text = some written := by
  rcases read?_eq_some_iff.1 found with ⟨isWord, rest, tagParts⟩
  rcases exists_append_trimStartOf isBlank text with ⟨border, parts, blank⟩
  rcases exists_eq_taggedAll_append rest with ⟨more, behind, areWords, absent, rfl⟩
  rw [trimStart] at tagParts
  rw [deciding?, findAll_eq, parts, tagParts, layout_border_append _ blank,
    layout_chain isWord areWords absent]
  rfl

theorem removeAll_cleaned_start {text written : Text}
    (found : deciding? .start text = some written) :
    removeAll (cleaned .start text) = removeAll text := by
  have trimmed : trim (cleaned .start text) = cleaned .start text := trim_trim _
  have present := findAll_ne_nil_of_deciding? (deciding?_anywhere_of_start found)
  rw [removeAll_of_trimmed trimmed, trim_residue_cleaned_start, removeAll_eq present]

/-- Where extraction at the start picks a tier, extraction anywhere picks the same tier, and what it
leaves is what extraction anywhere leaves of the text without its leading tags. -/
theorem extract_start_then_anywhere {text front : Text} {picked : Tier}
    (returned : extract .start text = .ok ⟨some picked, front⟩) :
    Exists fun whole : Text => extract .anywhere text = .ok ⟨some picked, whole⟩ ∧
      forall extraction : Extraction, extract .anywhere front = .ok extraction ->
        extraction.text = whole := by
  rcases extract_cases returned with ⟨_, impossible⟩ | ⟨written, _, found, named, same⟩
  · cases impossible
  · injection same with pickedSame frontSame
    injection pickedSame with equal
    refine ⟨removeAll text, ?_, fun extraction second => ?_⟩
    · rw [extract_of_some (deciding?_anywhere_of_start found), named, equal]
      rfl
    · rw [text_of_extract second, remaining_anywhere, frontSame, removeAll_cleaned_start found]

/-- A stack over two lines, a tag that is glued in the text behind it, and one that is free. -/
theorem extract_start_then_anywhere_two_lines :
    extract .start (ofString "  [high] \n[low][med] see a[low] [high]x") =
        .ok ⟨some .top, ofString "see a[low] [high]x"⟩ ∧
      extract .anywhere (ofString "  [high] \n[low][med] see a[low] [high]x") =
        .ok ⟨some .top, ofString "see a[low] x"⟩ ∧
      extract .anywhere (ofString "see a[low] [high]x") =
        .ok ⟨some .top, ofString "see a[low] x"⟩ := by
  have atStart : extract .start (ofString "  [high] \n[low][med] see a[low] [high]x") =
      .ok ⟨some .top, ofString "see a[low] [high]x"⟩ := rfl
  have second : extract .anywhere (ofString "see a[low] [high]x") =
      .ok ⟨some .top, ofString "see a[low] x"⟩ := rfl
  rcases extract_start_then_anywhere atStart with ⟨whole, anywhere, agree⟩
  have same : ofString "see a[low] x" = whole := agree _ second
  exact ⟨atStart, same ▸ anywhere, second⟩

end Tag
end Switchboard
