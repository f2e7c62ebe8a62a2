import Switchboard.Proofs.Rounds

namespace Switchboard
namespace Tag

open Text

/-!
# Extraction removes exactly the free chains

Where tags count anywhere, the message is searched, the tags found are removed, and this is repeated
until nothing is found.  Its specification does not mention a loop: the free chains of the message
are removed, all at once, and the first tag of the leftmost one names the tier.

The loop agrees with it because a round keeps the residue and takes one tag off each chain
(`Rounds`).  So the tags of the n-th round are the n-th tags of the chains of the message, each of
them written there as it is found, and no tag comes into being at a seam.
-/

/-- A chain ends where the span of it ends, and the next one does not start before. -/
theorem Layout.freeChains_ordered (position : Nat) (l : Layout) :
    (l.freeChains position).Pairwise (fun left right => left.span.stop <= right.start) ∧
      forall chain, chain ∈ l.freeChains position -> position <= chain.start := by
  induction l generalizing position with
  | plain text => exact ⟨List.Pairwise.nil, fun chain impossible => absurd impossible List.not_mem_nil⟩
  | cut head first more behind inductionHypothesis =>
      have below := inductionHypothesis
        (position + head.length + (taggedAll (first :: more)).length)
      rw [freeChains]
      constructor
      · exact List.Pairwise.cons below.2 below.1
      · intro chain member
        rcases List.mem_cons.mp member with here | later
        · rw [here]
          exact Nat.le_add_right position head.length
        · have behindStart := below.2 chain later
          omega

theorem freeChains_ordered (text : Text) :
    (freeChains text).Pairwise fun left right => left.span.stop <= right.start := by
  rw [freeChains_eq]
  exact (Layout.freeChains_ordered 0 (layout false text)).1

/-- The word of the tag that decides on a message. -/
def deciding? : TagPosition -> Text -> Option Text
  | .anywhere, text => (findAll text).head?.map (·.written)
  | .start, text => read? (trimStart text)

/-- The tag that decides is the first one of the leftmost free chain. -/
theorem deciding?_anywhere (text : Text) :
    deciding? .anywhere text = (freeChains text).head?.bind (·.words.head?) := by
  rw [deciding?, findAll_eq, freeChains_eq]
  cases layout false text <;> rfl

theorem deciding?_anywhere_eq_none_iff (text : Text) :
    deciding? .anywhere text = none ↔ findAll text = [] := by
  rw [deciding?, Option.map_eq_none_iff, List.head?_eq_none_iff]

theorem findAll_ne_nil_of_deciding? {text written : Text}
    (found : deciding? .anywhere text = some written) : findAll text ≠ [] := by
  rw [Ne, ← deciding?_anywhere_eq_none_iff, found]
  exact Option.some_ne_none written

theorem findAll_eq_nil_iff_freeChains (text : Text) : findAll text = [] ↔ freeChains text = [] := by
  rw [findAll_eq_nil_iff, freeChains_eq, chains, ← Layout.words_freeChains 0, List.map_eq_nil_iff]

theorem tier_eq_ok_iff {written : Text} {picked : Tier} :
    tier written = .ok picked ↔ Tier.ofAlias? (lower written) = some picked := by
  rw [tier]
  cases Tier.ofAlias? (lower written) <;> simp

/-- The message that is left where tags are taken out. -/
def cleaned : TagPosition -> Text -> Text
  | .anywhere, text => removeAll text
  | .start, text => trim (dropStacked text.length (trimStart text))

/-- Extraction asks for the tier of the tag that decides, if there is one. -/
theorem extract_eq (position : TagPosition) (text : Text) :
    extract position text =
      match deciding? position text with
      | none => .ok ⟨none, text⟩
      | some written => (tier written).map fun picked => ⟨some picked, cleaned position text⟩ := by
  cases position with
  | anywhere =>
      rw [extract, extractAnywhere, deciding?]
      cases findAll text with
      | nil => rfl
      | cons found others =>
          simp only [List.head?_cons, Option.map_some]
          cases tier found.written <;> rfl
  | start =>
      rw [extract, extractStart, deciding?]
      cases read? (trimStart text) with
      | none => rfl
      | some written =>
          simp only
          cases tier written <;> rfl

theorem extract_of_none {position : TagPosition} {text : Text}
    (absent : deciding? position text = none) : extract position text = .ok ⟨none, text⟩ := by
  rw [extract_eq, absent]

theorem extract_of_some {position : TagPosition} {text written : Text}
    (found : deciding? position text = some written) :
    extract position text =
      (tier written).map fun picked => ⟨some picked, cleaned position text⟩ := by
  rw [extract_eq, found]

/-- Extraction that returns has found no tag, or one with a tier. -/
theorem extract_cases {position : TagPosition} {text : Text} {extraction : Extraction}
    (returned : extract position text = .ok extraction) :
    (deciding? position text = none ∧ extraction = ⟨none, text⟩) ∨
      Exists fun written : Text => Exists fun picked : Tier =>
        deciding? position text = some written ∧ tier written = .ok picked ∧
          extraction = ⟨some picked, cleaned position text⟩ := by
  cases search : deciding? position text with
  | none =>
      rw [extract_of_none search] at returned
      injection returned with same
      exact Or.inl ⟨rfl, same.symm⟩
  | some written =>
      rw [extract_of_some search] at returned
      cases named : tier written with
      | error fault =>
          rw [named] at returned
          cases returned
      | ok picked =>
          rw [named] at returned
          injection returned with same
          exact Or.inr ⟨written, picked, rfl, named, same.symm⟩

/-- Extraction where tags count anywhere returns the message as it is if it has no free chain.
Otherwise it returns the tier of the first tag of the leftmost one, and the message without the
spans of all of them.  The tags found round by round are the tags of these chains in turn, and the
rounds end when no tag is left. -/
theorem extract_anywhere_removes_free_chains {text : Text} {extraction : Extraction}
    (returned : extract .anywhere text = .ok extraction) :
    Exists fun free : List Chain =>
      (forall chain, chain ∈ free ↔ IsFreeChain text chain) ∧
      free.Pairwise (fun left right => left.span.stop <= right.start) ∧
      (free = [] -> extraction = ⟨none, text⟩) ∧
      (forall chain rest, free = chain :: rest ->
        (Exists fun first : Text => Exists fun picked : Tier => chain.words.head? = some first ∧
          Tier.ofAlias? (lower first) = some picked ∧ extraction.tier = some picked) ∧
        extraction.text = removeSpans text (free.map (·.span))) ∧
      (forall round, (findAll (removeFound^[round] text)).map (·.written) =
        free.filterMap (·.words[round]?)) ∧
      Exists fun rounds : Nat => extraction.text = removeFound^[rounds] text ∧
        findAll extraction.text = [] ∧
        forall earlier, earlier < rounds -> findAll (removeFound^[earlier] text) ≠ [] := by
  have exactly : forall chain, chain ∈ freeChains text ↔ IsFreeChain text chain :=
    fun chain => mem_freeChains_iff
  refine ⟨freeChains text, exactly, freeChains_ordered text, ?_, ?_,
    fun round => written_findAll_iterate round text, ?_⟩
  · intro free
    have search := (findAll_eq_nil_iff_freeChains text).mpr free
    rcases extract_cases returned with ⟨_, same⟩ | ⟨written, _, foundSome, _⟩
    · exact same
    · rw [(deciding?_anywhere_eq_none_iff text).mpr search] at foundSome
      cases foundSome
  · intro chain rest free
    have first : deciding? .anywhere text = chain.words.head? := by
      rw [deciding?_anywhere, free]
      rfl
    rcases extract_cases returned with ⟨absent, _⟩ | ⟨written, picked, search, named, same⟩
    · rw [deciding?_anywhere_eq_none_iff, findAll_eq_nil_iff_freeChains, free] at absent
      cases absent
    · rw [same, removeSpans_freeChains]
      refine ⟨⟨written, picked, first ▸ search, tier_eq_ok_iff.1 named, rfl⟩, removeAll_eq ?_⟩
      rw [Ne, findAll_eq_nil_iff_freeChains, free]
      exact List.cons_ne_nil chain rest
  · rcases extract_cases returned with ⟨absent, same⟩ | ⟨_, _, _, _, same⟩
    · have search := (deciding?_anywhere_eq_none_iff text).mp absent
      rw [same]
      exact ⟨0, rfl, search, fun _ below => absurd below (Nat.not_lt_zero _)⟩
    · rcases removeRounds_eq_iterate text.length text with ⟨rounds, _, iterated, _, earlierFound⟩
      rw [same]
      exact ⟨rounds, iterated, findAll_removeAll text, earlierFound⟩

/-- A glued chain stays, and a free chain of two tags goes at once. -/
theorem extract_anywhere_glued_and_free :
    extract .anywhere (ofString "a[low] [med][high]") = .ok ⟨some .mid, ofString "a[low]"⟩ ∧
      Exists fun free : List Chain =>
        (forall chain, chain ∈ free ↔ IsFreeChain (ofString "a[low] [med][high]") chain) ∧
        forall chain rest, free = chain :: rest -> ofString "a[low]" =
          removeSpans (ofString "a[low] [med][high]") (free.map (·.span)) := by
  have returned : extract .anywhere (ofString "a[low] [med][high]") =
      .ok ⟨some .mid, ofString "a[low]"⟩ := rfl
  rcases extract_anywhere_removes_free_chains returned with ⟨free, exactly, _, _, removed, _⟩
  exact ⟨returned, free, exactly, fun chain rest parts => (removed chain rest parts).2⟩

end Tag
end Switchboard
