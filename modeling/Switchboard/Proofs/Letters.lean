import Switchboard.Text.Blank
import Switchboard.Text.Case

namespace Switchboard
namespace Text

/-!
# The letters that the words of tags are written with

Letters of a tag match without regard to case, and that relation is wider than lower-casing.  The
tables that decide it are finite, so the characters that can stand for a given letter are read off
backwards from them: a character stands for a letter if it is that letter, if a run of the lower-case
table leads to it, or if one of the shared upper-case letters links the two.

For the ten letters of the tag words this gives each letter in its two cases, and for the letter i
also the dotless small one and the dotted capital one.  Lower-casing gives the two of them forms of
their own, which no alias of a tier is written with.
-/

/-- The small letter i without a dot. -/
def dotlessI : Char := Char.ofNat 0x131

/-- The capital letter I with a dot. -/
def dottedI : Char := Char.ofNat 0x130

/-- The code points that the runs of a table lead to a given one. -/
def sources (runs : List CaseRun) (code : Nat) : List Nat :=
  runs.filterMap fun run =>
    if run.target <= code && code <= run.target + (run.last - run.first) then
      some (run.first + (code - run.target))
    else none

theorem runFor?_eq_some {runs : List CaseRun} {code : Nat} {run : CaseRun}
    (found : runFor? runs code = some run) : run ∈ runs ∧ run.covers code = true := by
  induction runs with
  | nil => cases found
  | cons head rest inductionHypothesis =>
      rw [runFor?] at found
      split at found
      · cases found
      · split at found
        · rename_i covered
          cases found
          exact ⟨List.mem_cons_self, covered⟩
        · have later := inductionHypothesis found
          exact ⟨List.mem_cons_of_mem head later.1, later.2⟩

/-- The null character also stands for the numbers that are no code point. -/
theorem toNat_ofNat_of_ne_zero {code : Nat} (nonzero : (Char.ofNat code).toNat ≠ 0) :
    (Char.ofNat code).toNat = code := by
  by_cases valid : code.isValidChar
  · rw [Char.ofNat, dif_pos valid]
    rfl
  · rw [Char.ofNat, dif_neg valid] at nonzero
    exact False.elim (nonzero rfl)

/-- A table sends a character to itself or along a run. -/
theorem mem_sources_of_mapCode {runs : List CaseRun} {c d : Char} (mapped : mapCode runs c = d)
    (nonzero : d.toNat ≠ 0) : c = d ∨ c.toNat ∈ sources runs d.toNat := by
  rw [mapCode] at mapped
  cases found : runFor? runs c.toNat with
  | none =>
      rw [found] at mapped
      exact Or.inl mapped
  | some run =>
      rw [found] at mapped
      right
      have here := runFor?_eq_some found
      have image : run.map c.toNat = d.toNat := by
        rw [← mapped] at nonzero ⊢
        exact (toNat_ofNat_of_ne_zero nonzero).symm
      have covered := here.2
      simp only [CaseRun.covers, Bool.and_eq_true, decide_eq_true_eq] at covered
      rw [CaseRun.map] at image
      refine List.mem_filterMap.mpr ⟨run, here.1, ?_⟩
      have inRange : (run.target <= d.toNat && d.toNat <= run.target + (run.last - run.first)) = true := by
        simp only [Bool.and_eq_true, decide_eq_true_eq]
        omega
      rw [if_pos inRange]
      exact congrArg some (by omega)

/-! ## The low end of the tables

The letters of tags are letters of ASCII, so few entries of the tables say anything about them. -/

/-- The runs that lead to code points up to that of the dotless i. -/
def lowRuns : List CaseRun :=
  [⟨0x41, 0x5A, 1, 0x61⟩, ⟨0xC0, 0xD6, 1, 0xE0⟩, ⟨0xD8, 0xDE, 1, 0xF8⟩, ⟨0x100, 0x12E, 2, 0x101⟩,
   ⟨0x178, 0x178, 1, 0xFF⟩, ⟨0x1E9E, 0x1E9E, 1, 0xDF⟩, ⟨0x212A, 0x212A, 1, 0x6B⟩,
   ⟨0x212B, 0x212B, 1, 0xE5⟩]

theorem mem_lowRuns {run : CaseRun} (listed : run ∈ lowerRuns) (low : run.target <= 0x131) :
    run ∈ lowRuns := by
  have checked : lowerRuns.filter (fun run => Nat.ble run.target 0x131) = lowRuns := rfl
  rw [← checked]
  exact List.mem_filter.mpr ⟨listed, Nat.ble_eq.mpr low⟩

/-- The groups of letters that hold a letter of ASCII. -/
def lowGroups : List (List Nat) := [[0x69, 0x131], [0x73, 0x17F]]

theorem mem_lowGroups {group : List Nat} (listed : group ∈ sharedUpperGroups) {code : Nat}
    (member : code ∈ group) (low : code <= 0x7F) : group ∈ lowGroups := by
  have checked : sharedUpperGroups.filter (fun group => group.any (Nat.ble · 0x7F)) = lowGroups :=
    rfl
  rw [← checked]
  exact List.mem_filter.mpr ⟨listed, List.any_eq_true.mpr ⟨code, member, Nat.ble_eq.mpr low⟩⟩

theorem mem_sources_lowRuns {code source : Nat} (listed : source ∈ sources lowerRuns code)
    (low : code <= 0x131) : source ∈ sources lowRuns code := by
  rcases List.mem_filterMap.mp listed with ⟨run, inTable, leads⟩
  refine List.mem_filterMap.mpr ⟨run, mem_lowRuns inTable ?_, leads⟩
  split at leads
  · rename_i inRange
    simp only [Bool.and_eq_true, decide_eq_true_eq] at inRange
    exact Nat.le_trans inRange.1 low
  · cases leads

/-- The code points that share an upper-case letter with a given one of ASCII. -/
def partners (code : Nat) : List Nat :=
  lowGroups.flatMap fun group => if group.contains code then group else []

theorem mem_partners_of_shareUpper {a b : Char} (low : a.toNat <= 0x7F)
    (shared : shareUpper a b = true) : b.toNat ∈ partners a.toNat := by
  rw [shareUpper, Bool.and_eq_true_iff, List.any_eq_true] at shared
  rcases shared.2 with ⟨group, listed, both⟩
  have members := Bool.and_eq_true_iff.mp both
  have isLow := mem_lowGroups listed (List.contains_iff_mem.mp members.1) low
  refine List.mem_flatMap.mpr ⟨group, isLow, ?_⟩
  rw [if_pos members.1]
  exact List.contains_iff_mem.mp members.2

/-- The characters that a small letter may be written with, as far as the tables go. -/
def spellings (letter : Char) : List Char :=
  dottedI :: ((letter.toNat :: partners letter.toNat).flatMap fun code =>
    code :: sources lowRuns code).map Char.ofNat

theorem foldChar_eq {c d : Char} (folded : foldChar c = d) (nonzero : d.toNat ≠ 0)
    (low : d.toNat <= 0x131) : c = dottedI ∨ c.toNat ∈ d.toNat :: sources lowRuns d.toNat := by
  rw [foldChar] at folded
  split at folded
  · rename_i dotted
    exact Or.inl dotted
  · right
    rcases mem_sources_of_mapCode folded nonzero with same | listed
    · rw [same]
      exact List.mem_cons_self
    · exact List.mem_cons_of_mem _ (mem_sources_lowRuns listed low)

/-- Small letters of ASCII that are linked to low code points only. -/
def IsLow (letter : Char) : Prop :=
  foldChar letter = letter ∧ letter.toNat <= 0x7F ∧
    forall code, code ∈ letter.toNat :: partners letter.toNat -> code ≠ 0 ∧ code <= 0x131

/-- Only listed characters match a small letter.  The dotted capital is listed for every letter
here; it is the table of each single letter that leaves it out again. -/
theorem mem_spellings_of_sameLetter {letter c : Char} (low : IsLow letter)
    (same : sameLetter letter c = true) : c ∈ spellings letter := by
  rw [sameLetter, low.1, Bool.or_eq_true_iff] at same
  have linked : (foldChar c).toNat ∈ letter.toNat :: partners letter.toNat := by
    rcases same with equal | shared
    · rw [← eq_of_beq equal]
      exact List.mem_cons_self
    · exact List.mem_cons_of_mem _ (mem_partners_of_shareUpper low.2.1 shared)
  have bounds := low.2.2 _ linked
  rcases foldChar_eq (rfl : foldChar c = foldChar c) bounds.1 bounds.2 with dotted | listed
  · rw [dotted]
    exact List.mem_cons_self
  · refine List.mem_cons_of_mem _ (List.mem_map.mpr ⟨c.toNat, ?_, Char.ofNat_toNat c⟩)
    exact List.mem_flatMap.mpr ⟨_, linked, listed⟩

/-! ## The letters of the tag words -/

/-- The letters of the tag words. -/
def letters : List Char := ['l', 'o', 'w', 'm', 'e', 'd', 'i', 'u', 'h', 'g']

theorem letters_low : forall letter, letter ∈ letters -> IsLow letter := by
  have checked : (letters.all fun letter => decide (foldChar letter = letter ∧
      letter.toNat <= 0x7F ∧ forall code, code ∈ letter.toNat :: partners letter.toNat ->
        code ≠ 0 ∧ code <= 0x131)) = true := by
    decide +kernel
  simpa only [List.all_eq_true, decide_eq_true_eq, IsLow] using checked

/-- All that the case tables say about the characters that stand for one of the letters. -/
theorem letters_spelled : forall letter, letter ∈ letters ->
    forall c, c ∈ spellings letter -> sameLetter letter c = true ->
      (isBlank c = false ∧ c ≠ '[' ∧ c ≠ ']') ∧
        (c = dotlessI ∨ c = dottedI ∨ (lowerChar c = letter ∧ c ≠ Char.ofNat 0x3A3)) := by
  -- The list of spellings is gone through; a quantifier over characters would go through them all.
  have checked : (letters.all fun letter => (spellings letter).all fun c =>
      decide (sameLetter letter c = true -> (isBlank c = false ∧ c ≠ '[' ∧ c ≠ ']') ∧
        (c = dotlessI ∨ c = dottedI ∨ (lowerChar c = letter ∧ c ≠ Char.ofNat 0x3A3)))) = true := by
    decide +kernel
  simpa only [List.all_eq_true, decide_eq_true_eq] using checked

/-! ## Lower case without context -/

/-- Without the two letters whose lower-case form is special, lower-casing works letter by
letter. -/
theorem lowerAfter_eq_map {text : Text}
    (plain : forall c, c ∈ text -> c ≠ Char.ofNat 0x3A3 ∧ c ≠ dottedI) (afterCased : Bool) :
    lowerAfter afterCased text = text.map lowerChar := by
  induction text generalizing afterCased with
  | nil => rfl
  | cons c rest inductionHypothesis =>
      have here := plain c List.mem_cons_self
      rw [lowerAfter, lowerForm, if_neg here.1, if_neg (show c ≠ Char.ofNat 0x130 from here.2),
        inductionHypothesis fun d later => plain d (List.mem_cons_of_mem c later)]
      rfl

/-- The lower-case form of every letter shows in the lower-case text. -/
theorem exists_lowerForm_subset {text : Text} {c : Char} (member : c ∈ text) (afterCased : Bool) :
    Exists fun before : Bool => Exists fun following : Text =>
      forall d, d ∈ lowerForm before c following -> d ∈ lowerAfter afterCased text := by
  induction text generalizing afterCased with
  | nil => cases member
  | cons head rest inductionHypothesis =>
      rcases List.mem_cons.mp member with same | later
      · rw [same]
        exact ⟨afterCased, rest, fun d shown => List.mem_append_left _ shown⟩
      · rcases inductionHypothesis later _ with ⟨before, following, shows⟩
        exact ⟨before, following, fun d shown => List.mem_append_right _ (shows d shown)⟩

end Text
end Switchboard
