import Switchboard.Proofs.Extraction

namespace Switchboard
namespace Tag

open Text

/-!
# Which recognised tags name a tier

A tag is recognised letter by letter, and its tier is looked up under its lower-case form.  The two
agree on every tag word that is written without the dotless small i and the dotted capital one: its
lower-case form is one of the four tag words, and each of these is an alias.  A tag word with one of
the two letters is recognised all the same, but no alias is written with what lower-casing makes of
it, so its look-up fails.
-/

/-- The mark that lower-casing sets behind the i that it makes of the dotted capital one. -/
def dotAbove : Char := Char.ofNat 0x307

theorem map_lowerChar_eq {word written : Text}
    (spelled : List.Forall₂ (fun letter c => sameLetter letter c = true) word written)
    (small : forall letter c, letter ∈ word -> c ∈ written -> sameLetter letter c = true ->
      lowerChar c = letter) : written.map lowerChar = word := by
  induction spelled with
  | nil => rfl
  | cons same rest inductionHypothesis =>
      have here := small _ _ List.mem_cons_self List.mem_cons_self same
      have below := inductionHypothesis fun letter c inWord inWritten =>
        small letter c (List.mem_cons_of_mem _ inWord) (List.mem_cons_of_mem _ inWritten)
      rw [List.map_cons, here, below]

/-- The letters of a tag word without foreign letters have no special lower-case form. -/
theorem plain_letter {word written : Text} (listed : word ∈ words)
    (familiar : hasForeignI written = false) {letter c : Char} (inWord : letter ∈ word)
    (inWritten : c ∈ written) (same : sameLetter letter c = true) :
    lowerChar c = letter ∧ c ≠ Char.ofNat 0x3A3 ∧ c ≠ dottedI := by
  rw [hasForeignI, Bool.or_eq_false_iff] at familiar
  have notDotless : c ≠ dotlessI := by
    intro dotless
    have shown := List.contains_iff_mem.mpr (dotless ▸ inWritten)
    rw [familiar.1] at shown
    cases shown
  have notDotted : c ≠ dottedI := by
    intro dotted
    have shown := List.contains_iff_mem.mpr (dotted ▸ inWritten)
    rw [familiar.2] at shown
    cases shown
  rcases (letter_of_sameLetter listed inWord same).2 with dotless | dotted | ⟨lowered, notSigma⟩
  · exact False.elim (notDotless dotless)
  · exact False.elim (notDotted dotted)
  · exact ⟨lowered, notSigma, notDotted⟩

/-- Without foreign letters the lower-case form of a tag word is the word it spells. -/
theorem lower_mem_words {written : Text} (isWord : IsTagWord written)
    (familiar : hasForeignI written = false) : lower written ∈ words := by
  rcases isWord with ⟨word, listed, spelled⟩
  have plain : forall c, c ∈ written -> c ≠ Char.ofNat 0x3A3 ∧ c ≠ dottedI := by
    intro c member
    rcases exists_letter_of_mem spelled member with ⟨letter, inWord, same⟩
    exact (plain_letter listed familiar inWord member same).2
  have lowered : written.map lowerChar = word := by
    apply map_lowerChar_eq spelled
    intro letter c inWord inWritten same
    exact (plain_letter listed familiar inWord inWritten same).1
  rw [lower, lowerAfter_eq_map plain, lowered]
  exact listed

/-- Every tag word is an alias. -/
theorem isSome_ofAlias?_of_mem_words : forall word, word ∈ words ->
    (Tier.ofAlias? word).isSome = true := by
  decide

theorem aliases_free : forall entry, entry ∈ Tier.aliases ->
    dotlessI ∉ entry.1 ∧ dotAbove ∉ entry.1 := by
  decide

theorem lowerForm_dotlessI (before : Bool) (following : Text) :
    lowerForm before dotlessI following = [dotlessI] := rfl

theorem lowerForm_dottedI (before : Bool) (following : Text) :
    lowerForm before dottedI following = ['i', dotAbove] := rfl

/-- The lower-case form of a foreign letter shows what no alias is written with. -/
theorem foreign_mem_lower {written : Text} (foreign : hasForeignI written = true) :
    dotlessI ∈ lower written ∨ dotAbove ∈ lower written := by
  rcases Bool.or_eq_true_iff.mp foreign with dotless | dotted
  · left
    have member : dotlessI ∈ written := List.contains_iff_mem.mp dotless
    rcases exists_lowerForm_subset member false with ⟨before, following, shows⟩
    apply shows
    rw [lowerForm_dotlessI]
    exact List.mem_singleton_self dotlessI
  · right
    have member : dottedI ∈ written := List.contains_iff_mem.mp dotted
    rcases exists_lowerForm_subset member false with ⟨before, following, shows⟩
    apply shows
    rw [lowerForm_dottedI]
    exact List.mem_cons_of_mem _ (List.mem_singleton_self dotAbove)

theorem ofAlias?_eq_none_of_foreign {written : Text} (foreign : hasForeignI written = true) :
    Tier.ofAlias? (lower written) = none := by
  cases named : Tier.ofAlias? (lower written) with
  | none => rfl
  | some picked =>
      rcases List.lookup_eq_some_iff.mp named with ⟨before, after, parts, _⟩
      have listed : (lower written, picked) ∈ Tier.aliases :=
        parts ▸ List.mem_append_right before List.mem_cons_self
      have free := aliases_free _ listed
      rcases foreign_mem_lower foreign with dotless | dotted
      · exact False.elim (free.1 dotless)
      · exact False.elim (free.2 dotted)

/-- A tag has a tier exactly if its word shows no foreign letter. -/
theorem exists_tier_iff {written : Text} (isWord : IsTagWord written) :
    (Exists fun picked : Tier => tier written = .ok picked) ↔ hasForeignI written = false := by
  cases foreign : hasForeignI written with
  | false =>
      have named := isSome_ofAlias?_of_mem_words _ (lower_mem_words isWord foreign)
      rcases Option.isSome_iff_exists.mp named with ⟨picked, found⟩
      exact iff_of_true ⟨picked, tier_eq_ok_iff.2 found⟩ rfl
  | true =>
      refine iff_of_false ?_ Bool.true_eq_false.mp
      rintro ⟨picked, named⟩
      have found := tier_eq_ok_iff.1 named
      rw [ofAlias?_eq_none_of_foreign foreign] at found
      cases found

/-- The tag that decides is a tag. -/
theorem isTagWord_of_deciding? {position : TagPosition} {text written : Text}
    (found : deciding? position text = some written) : IsTagWord written := by
  cases position with
  | anywhere =>
      have clean := layout_clean false text
      rw [deciding?, findAll_eq] at found
      cases parts : layout false text with
      | plain piece =>
          rw [parts] at found
          cases found
      | cut head first more behind =>
          rw [parts] at found clean
          injection found with same
          exact same ▸ clean.2.1
  | start => exact (read?_eq_some_iff.1 found).1

/-- Extraction returns exactly if the tag that decides, if any, shows no foreign letter. -/
theorem exists_extract_iff (position : TagPosition) (text : Text) :
    (Exists fun extraction : Extraction => extract position text = .ok extraction) ↔
      forall written, deciding? position text = some written -> hasForeignI written = false := by
  constructor
  · rintro ⟨extraction, returned⟩ written found
    rcases extract_cases returned with ⟨absent, _⟩ | ⟨other, picked, foundToo, named, _⟩
    · rw [absent] at found
      cases found
    · rw [found] at foundToo
      injection foundToo with same
      rw [← same] at named
      exact (exists_tier_iff (isTagWord_of_deciding? found)).mp ⟨picked, named⟩
  · intro familiar
    cases search : deciding? position text with
    | none => exact ⟨_, extract_of_none search⟩
    | some written =>
        rcases (exists_tier_iff (isTagWord_of_deciding? search)).mpr (familiar written search) with
          ⟨picked, named⟩
        refine ⟨⟨some picked, cleaned position text⟩, ?_⟩
        rw [extract_of_some search, named]
        rfl

end Tag
end Switchboard
