import Mathlib.Logic.Function.Iterate
import Switchboard.Proofs.Removal
import Switchboard.Tag.Extraction

namespace Switchboard
namespace Tag

open Text

/-!
# Rounds of removal take free chains apart tag by tag

One round removes the first tag of every free chain.  Afterwards the free chains are the old ones
without their first tags, those that had a single tag being gone, and the residue is the old one.
Both are invariants of the loop: a text and its image after any number of rounds have the same
trimmed residue, and the tags found in a round are the tags that stand at that place of the original
chains.  In particular no round finds a tag that was not there from the beginning.

The loop ends with a text that is its own residue, so it ends with the residue of the original text,
which is what one removal of all free chains gives.
-/

/-! ## One round -/

/-- What is left of the words of a chain behind a number of its tags, if anything is. -/
def behindTags (count : Nat) (words : List Text) : Option (List Text) :=
  if words.drop count = [] then none else some (words.drop count)

/-- A piece with the rest of a chain in front of it is that chain and the piece. -/
theorem layout_taggedAll_append {first : Text} {more : List Text} {piece : Text}
    (areWords : forall w, w ∈ first :: more -> IsTagWord w)
    (clean : layout true piece = .plain piece) (absent : read? piece = none) :
    layout false (taggedAll (first :: more) ++ piece) = .cut [] first more (.plain piece) := by
  rw [taggedAll_cons, List.append_assoc, layout_chain (areWords first List.mem_cons_self)
    (fun w member => areWords w (List.mem_cons_of_mem first member)) absent, clean]

theorem chains_taggedAll_append {words : List Text} {piece : Text}
    (areWords : forall w, w ∈ words -> IsTagWord w) (clean : layout true piece = .plain piece)
    (absent : read? piece = none) :
    chains (taggedAll words ++ piece) = (behindTags 0 words).toList := by
  cases words with
  | nil =>
      have alone : layout false (taggedAll [] ++ piece) = .plain piece :=
        (layout_true_of_absent absent).symm.trans clean
      rw [chains, alone]
      rfl
  | cons first more =>
      rw [chains, layout_taggedAll_append areWords clean absent]
      rfl

/-- The rest of a chain in front of a piece does not show in the residue once a seam closes there. -/
theorem join_residue_taggedAll_append (outer : Text) {words : List Text} {piece : Text}
    (areWords : forall w, w ∈ words -> IsTagWord w) (clean : layout true piece = .plain piece)
    (absent : read? piece = none) :
    join outer (residue (taggedAll words ++ piece)) = join outer piece := by
  cases words with
  | nil =>
      have alone : layout false (taggedAll [] ++ piece) = .plain piece :=
        (layout_true_of_absent absent).symm.trans clean
      rw [residue, alone]
      rfl
  | cons first more =>
      have shape : residue (taggedAll (first :: more) ++ piece) = join [] piece := by
        rw [residue, layout_taggedAll_append areWords clean absent]
        rfl
      rw [shape, join_nil_left, join_afterSeam]

/-- What a round leaves of a layout when the rest of a chain stands in front of it. -/
def Layout.exposedBehind (words : List Text) (l : Layout) : List Text :=
  (taggedAll words ++ l.head) :: l.firstParts.map (·.2)

theorem Layout.exposedBehind_cut (words : List Text) (head first : Text) (more : List Text)
    (behind : Layout) : (cut head first more behind).exposedBehind words =
      (taggedAll words ++ head) :: behind.exposedBehind more := rfl

theorem Layout.exposed_cut (head first : Text) (more : List Text) (behind : Layout) :
    (cut head first more behind).exposed = head :: behind.exposedBehind more := rfl

theorem join_residue_exposedBehind {l : Layout} (clean : l.Clean true) (absent : read? l.head = none)
    (outer : Text) {words : List Text} (areWords : forall w, w ∈ words -> IsTagWord w) :
    join outer (joinAll ((l.exposedBehind words).map residue)) = join outer (joinAll l.pieces) := by
  -- What is joined already is general: each seam closes onto it and hands it on.
  induction l generalizing outer words with
  | plain piece => exact join_residue_taggedAll_append outer areWords clean absent
  | cut head first more behind inductionHypothesis =>
      rcases clean with ⟨headClean, _, moreAreWords, behindAbsent, behindClean⟩
      have opened : joinAll (((Layout.cut head first more behind).exposedBehind words).map residue) =
          join (residue (taggedAll words ++ head))
            (joinAll ((behind.exposedBehind more).map residue)) := by
        rw [Layout.exposedBehind_cut, List.map_cons]
        exact joinAll_cons _ (List.cons_ne_nil _ _)
      have here := join_residue_taggedAll_append outer areWords headClean absent
      have below := inductionHypothesis behindClean behindAbsent (join outer head) moreAreWords
      rw [opened, ← join_assoc, here, below, Layout.pieces,
        joinAll_cons head behind.pieces_ne_nil, join_assoc]

/-- A round keeps the residue. -/
theorem trim_residue_removeFound (text : Text) :
    trim (residue (removeFound text)) = trim (residue text) := by
  have clean := layout_clean false text
  rw [removeFound_eq, trim_residue_trim, residue_joinAll]
  cases parts : layout false text with
  | plain piece =>
      have same := eq_of_layout_plain parts
      rw [Layout.exposed, same]
      rfl
  | cut head first more behind =>
      rw [parts] at clean
      rcases clean with ⟨headClean, _, areWords, absent, behindClean⟩
      have headResidue : residue head = head := by
        rw [residue, headClean]
        rfl
      have opened : joinAll ((Layout.cut head first more behind).exposed.map residue) =
          join head (joinAll ((behind.exposedBehind more).map residue)) := by
        rw [Layout.exposed_cut, List.map_cons, headResidue]
        exact joinAll_cons _ (List.cons_ne_nil _ _)
      have below := join_residue_exposedBehind behindClean absent head areWords
      rw [opened, below, residue, parts, Layout.pieces, joinAll_cons head behind.pieces_ne_nil]

theorem chains_exposedBehind {l : Layout} (clean : l.Clean true) (absent : read? l.head = none)
    {words : List Text} (areWords : forall w, w ∈ words -> IsTagWord w) :
    (l.exposedBehind words).flatMap chains =
      (behindTags 0 words).toList ++ l.chains.filterMap (behindTags 1) := by
  induction l generalizing words with
  | plain piece =>
      rw [Layout.exposedBehind, Layout.firstParts, List.map_nil, List.flatMap_cons, List.flatMap_nil,
        Layout.head, chains_taggedAll_append areWords clean absent]
      rfl
  | cut head first more behind inductionHypothesis =>
      rcases clean with ⟨headClean, _, moreAreWords, behindAbsent, behindClean⟩
      have here := chains_taggedAll_append areWords headClean absent
      have below := inductionHypothesis behindClean behindAbsent moreAreWords
      rw [Layout.exposedBehind_cut, List.flatMap_cons, here, below, Layout.chains,
        List.filterMap_cons]
      cases more <;> rfl

/-- A round takes the first tag off every chain. -/
theorem chains_removeFound (text : Text) :
    chains (removeFound text) = (chains text).filterMap (behindTags 1) := by
  have clean := layout_clean false text
  rw [removeFound_eq, chains_trim, chains_joinAll, chains]
  cases parts : layout false text with
  | plain piece =>
      rw [parts] at clean
      have alone : chains piece = [] := by
        rw [chains, show layout false piece = .plain piece from clean]
        rfl
      rw [Layout.exposed, Layout.head, List.flatMap_cons, alone]
      rfl
  | cut head first more behind =>
      rw [parts] at clean
      rcases clean with ⟨headClean, _, areWords, absent, behindClean⟩
      have headChains : chains head = [] := by
        rw [chains, headClean]
        rfl
      have below := chains_exposedBehind behindClean absent areWords
      rw [Layout.exposed_cut, List.flatMap_cons, headChains, below, Layout.chains,
        List.filterMap_cons]
      cases more <;> rfl

/-! ## Many rounds -/

/-- A layout has no empty chain, and no chain is longer than the text. -/
theorem Layout.bounds_of_mem_chains {l : Layout} {words : List Text} (member : words ∈ l.chains) :
    words ≠ [] ∧ words.length <= l.text.length := by
  induction l with
  | plain piece => cases member
  | cut head first more behind inductionHypothesis =>
      rw [Layout.text, List.length_append, List.length_append, List.length_append]
      rcases List.mem_cons.mp member with here | later
      · rw [here]
        have short := length_le_length_taggedAll (first :: more)
        rw [taggedAll_cons, List.length_append] at short
        exact ⟨List.cons_ne_nil first more, by omega⟩
      · have below := inductionHypothesis later
        exact ⟨below.1, by omega⟩

theorem words_ne_nil_of_mem_chains {text : Text} {words : List Text} (member : words ∈ chains text) :
    words ≠ [] :=
  (Layout.bounds_of_mem_chains member).1

theorem length_le_of_mem_chains {text : Text} {words : List Text} (member : words ∈ chains text) :
    words.length <= text.length := by
  have bound := (Layout.bounds_of_mem_chains member).2
  rwa [text_layout] at bound

/-- After a number of rounds each chain has lost that many tags. -/
theorem chains_iterate (rounds : Nat) (text : Text) :
    chains (removeFound^[rounds] text) = (chains text).filterMap (behindTags rounds) := by
  induction rounds with
  | zero =>
      have kept : forall words, words ∈ chains text -> behindTags 0 words = some words := by
        intro words member
        exact if_neg (words_ne_nil_of_mem_chains member)
      rw [Function.iterate_zero, id, List.filterMap_congr kept, List.filterMap_some]
  | succ rounds inductionHypothesis =>
      rw [Function.iterate_succ_apply', chains_removeFound, inductionHypothesis,
        List.filterMap_filterMap]
      apply List.filterMap_congr
      intro words _
      simp only [behindTags]
      split
      · rename_i gone
        rw [Option.bind_none, if_pos]
        rw [← List.drop_drop, gone, List.drop_nil]
      · rw [Option.bind_some]
        simp only [behindTags, List.drop_drop]

theorem trim_residue_iterate (rounds : Nat) (text : Text) :
    trim (residue (removeFound^[rounds] text)) = trim (residue text) := by
  induction rounds with
  | zero => rfl
  | succ rounds inductionHypothesis =>
      rw [Function.iterate_succ_apply', trim_residue_removeFound, inductionHypothesis]

/-- The tags found in a round are those that stand at its place in the chains. -/
theorem written_findAll_iterate (round : Nat) (text : Text) :
    (findAll (removeFound^[round] text)).map (·.written) =
      (freeChains text).filterMap (·.words[round]?) := by
  rw [findAll_eq, Layout.written_found, ← chains, chains_iterate, freeChains_eq,
    chains, ← Layout.words_freeChains 0 (layout false text), List.filterMap_filterMap,
    List.filterMap_map]
  apply List.filterMap_congr
  intro chain _
  simp only [Function.comp, behindTags]
  split
  · rename_i gone
    rw [Option.bind_none, List.getElem?_eq_none (List.drop_eq_nil_iff.mp gone)]
  · rw [Option.bind_some, List.getElem?_drop]
    rfl

/-- The loop stops after the first round that leaves no tag, and the number of characters is enough
rounds. -/
theorem removeRounds_eq_iterate (count : Nat) (text : Text) :
    Exists fun rounds : Nat => rounds <= count ∧ removeRounds count text = removeFound^[rounds] text ∧
      (findAll (removeRounds count text) = [] ∨ rounds = count) ∧
      forall earlier, earlier < rounds -> findAll (removeFound^[earlier] text) ≠ [] := by
  -- The text is general: each round goes on with another one.
  induction count generalizing text with
  | zero => exact ⟨0, Nat.le_refl 0, rfl, Or.inr rfl, fun _ below => absurd below (Nat.not_lt_zero _)⟩
  | succ count inductionHypothesis =>
      rw [removeRounds]
      cases found : findAll text with
      | nil =>
          refine ⟨0, Nat.zero_le _, rfl, Or.inl ?_, fun _ below => absurd below (Nat.not_lt_zero _)⟩
          exact found
      | cons first rest =>
          rcases inductionHypothesis (removeFound text) with ⟨rounds, bound, same, ended, earlierFound⟩
          refine ⟨rounds + 1, Nat.succ_le_succ bound, ?_, ?_, ?_⟩
          · exact same
          · exact ended.imp id (congrArg (· + 1))
          · intro earlier below
            cases earlier with
            | zero =>
                rw [Function.iterate_zero, id, found]
                exact List.cons_ne_nil _ _
            | succ earlier => exact earlierFound earlier (Nat.lt_of_succ_lt_succ below)

/-! ## The end of the loop -/

theorem Layout.found_eq_nil_iff (position : Nat) (l : Layout) : l.found position = [] ↔ l.chains = [] := by
  cases l with
  | plain text => exact iff_of_true rfl rfl
  | cut head first more behind =>
      constructor
      · intro impossible
        cases impossible
      · intro impossible
        cases impossible

theorem findAll_eq_nil_iff (text : Text) : findAll text = [] ↔ chains text = [] := by
  rw [findAll_eq, chains]
  exact Layout.found_eq_nil_iff 0 (layout false text)

/-- A text without a free chain is its own residue. -/
theorem residue_of_chains_eq_nil {text : Text} (absent : chains text = []) : residue text = text := by
  rw [chains] at absent
  rw [residue]
  cases parts : layout false text with
  | plain piece => exact eq_of_layout_plain parts
  | cut head first more behind =>
      rw [parts] at absent
      cases absent

/-- The loop does not stop before the last tag is gone. -/
theorem findAll_removeAll (text : Text) : findAll (removeAll text) = [] := by
  rcases removeRounds_eq_iterate text.length text with ⟨rounds, _, same, ended, _⟩
  rcases ended with done | whole
  · exact done
  · -- No chain has more tags than the text has characters, so this many rounds use all of them up.
    rw [removeAll, same, findAll_eq_nil_iff, chains_iterate, List.filterMap_eq_nil_iff]
    intro words member
    apply if_pos
    rw [List.drop_eq_nil_iff, whole]
    exact length_le_of_mem_chains member

/-- The loop leaves what the removal of all free chains at once leaves. -/
theorem removeAll_eq {text : Text} (found : findAll text ≠ []) :
    removeAll text = trim (residue text) := by
  have done := findAll_removeAll text
  have gone := residue_of_chains_eq_nil ((findAll_eq_nil_iff _).mp done)
  rcases removeRounds_eq_iterate text.length text with ⟨rounds, _, same, _, _⟩
  rw [← removeAll] at same
  cases rounds with
  | zero =>
      rw [same] at done
      exact False.elim (found done)
  | succ rounds =>
      have trimmed : trim (removeAll text) = removeAll text := by
        rw [same, Function.iterate_succ_apply', removeFound, removeSpans, trim_trim]
      calc removeAll text = trim (residue (removeAll text)) := by rw [gone, trimmed]
        _ = trim (residue text) := by rw [same, trim_residue_iterate]

end Tag
end Switchboard
