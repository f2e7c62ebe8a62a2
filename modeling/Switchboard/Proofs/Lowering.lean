import Mathlib.Data.Nat.ModEq
import Switchboard.Proofs.Blanks
import Switchboard.Proofs.Letters
import Switchboard.Proofs.Trimming

namespace Switchboard
namespace Text

/-!
# Lower case, letter by letter and in context

A letter is lowered by a table, and what the table leads to it leaves alone, so lowering twice is
lowering once.  This is a fact about the runs of the table: wherever one of them leads, no other one
starts.  Runs that overlap all the same hold every other letter and alternate.

Two characters are not lowered one for one.  The dotted capital I becomes two characters; it is the
only reason why a text gets longer.  A capital sigma becomes one of two small letters, and which one
depends on the nearest characters on either side that are not passed over.  What a part of a text
becomes is therefore a function of the part, of whether a letter with case is seen before it, and of
whether one leads the text behind it; and it changes with these only where a capital sigma does.
-/

/-! ## The runs of the lower-case table -/

/-- The capital sigma, whose lower-case form depends on its place. -/
def capitalSigma : Char := Char.ofNat 0x3A3

/-- The small sigma inside a word. -/
def smallSigma : Char := Char.ofNat 0x3C3

/-- The small sigma at the end of a word. -/
def finalSigma : Char := Char.ofNat 0x3C2

namespace CaseRun

/-- The last code point that a run leads to. -/
def top (run : CaseRun) : Nat := run.target + (run.last - run.first)

/-- The code points that a run maps. -/
def codes (run : CaseRun) : List Nat :=
  (List.range ((run.last - run.first) / run.stride + 1)).map fun step =>
    run.first + run.stride * step

/-- Whether nothing that a run leads to is mapped by another one: the code points lie apart, or they
alternate. -/
def misses (other run : CaseRun) : Bool :=
  Nat.blt run.top other.first || Nat.blt other.last run.target ||
    ((Nat.beq (run.stride % other.stride) 0 || Nat.beq run.first run.last) &&
      !Nat.beq (run.target % other.stride) (other.first % other.stride))

/-- Whether a run neither maps a code point of a stretch nor leads to one. -/
def avoids (run : CaseRun) (range : Nat × Nat) : Bool :=
  (Nat.blt run.last range.1 || Nat.blt range.2 run.first) &&
    (Nat.blt run.top range.1 || Nat.blt range.2 run.target)

theorem covers_iff {run : CaseRun} {code : Nat} : run.covers code = true ↔
    run.first <= code ∧ code <= run.last ∧ (code - run.first) % run.stride = 0 := by
  simp [covers, and_assoc]

theorem map_within {run : CaseRun} {code : Nat} (covered : run.covers code = true) :
    run.target <= run.map code ∧ run.map code <= run.top := by
  have bounds := covers_iff.mp covered
  unfold map top
  omega

theorem mem_codes {run : CaseRun} {code : Nat} (covered : run.covers code = true) :
    code ∈ run.codes := by
  rcases covers_iff.mp covered with ⟨above, below, step⟩
  refine List.mem_map.mpr ⟨(code - run.first) / run.stride, List.mem_range.mpr ?_, ?_⟩
  · exact Nat.lt_succ_of_le (Nat.div_le_div_right (Nat.sub_le_sub_right below run.first))
  · rw [Nat.mul_div_cancel' (Nat.dvd_of_mod_eq_zero step)]
    omega

theorem covers_map_of_misses {other run : CaseRun} {code : Nat} (apart : other.misses run = true)
    (covered : run.covers code = true) : other.covers (run.map code) = false := by
  rw [Bool.eq_false_iff]
  intro reached
  have within := map_within covered
  rcases covers_iff.mp covered with ⟨_, below, step⟩
  rcases covers_iff.mp reached with ⟨above, belowOther, stepOther⟩
  simp only [misses, Bool.or_eq_true, Bool.and_eq_true, Bool.not_eq_true', ← Bool.not_eq_true,
    Nat.blt_eq, Nat.beq_eq] at apart
  rcases apart with (left | right) | ⟨whole, alternate⟩
  · omega
  · omega
  · -- A step of the run is made of whole steps of the other one, which is another residue.
    have wholeSteps : other.stride ∣ code - run.first := by
      rcases whole with strides | lone
      · exact Nat.dvd_trans (Nat.dvd_of_mod_eq_zero strides) (Nat.dvd_of_mod_eq_zero step)
      · have first : code - run.first = 0 := by omega
        rw [first]
        exact Nat.dvd_zero _
    have source := (Nat.modEq_iff_dvd' above).mpr (Nat.dvd_of_mod_eq_zero stepOther)
    have image : run.map code % other.stride = run.target % other.stride := by
      rcases wholeSteps with ⟨steps, same⟩
      rw [map, same, Nat.add_mul_mod_self_left]
    exact alternate (image.symm.trans source.symm)

theorem outside_of_avoids {run : CaseRun} {range : Nat × Nat} {code : Nat}
    (avoided : run.avoids range = true) (covered : run.covers code = true) :
    ¬ (range.1 <= code ∧ code <= range.2) ∧
      ¬ (range.1 <= run.map code ∧ run.map code <= range.2) := by
  have bounds := covers_iff.mp covered
  have within := map_within covered
  simp only [avoids, Bool.and_eq_true, Bool.or_eq_true, Nat.blt_eq] at avoided
  omega

end CaseRun

/-! ## What the runs of the table keep -/

/-- The blanks as ranges of code points. -/
def blankRanges : Ranges :=
  [(0x09, 0x0D), (0x1C, 0x20), (0x85, 0x85), (0xA0, 0xA0), (0x1680, 0x1680), (0x2000, 0x200A),
   (0x2028, 0x2029), (0x202F, 0x202F), (0x205F, 0x205F), (0x3000, 0x3000)]

theorem isBlank_iff (c : Char) : isBlank c = true ↔
    Exists fun range : Nat × Nat =>
      range ∈ blankRanges ∧ range.1 <= c.toNat ∧ c.toNat <= range.2 := by
  simp only [isBlank, blankRanges, Bool.or_eq_true, Bool.and_eq_true, decide_eq_true_eq, beq_iff_eq,
    List.mem_cons, List.not_mem_nil, or_false, exists_eq_or_imp, exists_eq_left]
  omega

/-- Whether one of the ranges holds all code points from one to another. -/
def Ranges.covers (first last : Nat) : Ranges -> Bool
  | [] => false
  | (lower, upper) :: rest =>
      Nat.ble lower first &&
        (Nat.ble last upper || (Nat.blt upper first && Ranges.covers first last rest))

theorem Ranges.holds_of_covers {ranges : Ranges} {first last code : Nat}
    (covered : ranges.covers first last = true) (above : first <= code) (below : code <= last) :
    ranges.holds code = true := by
  induction ranges with
  | nil => cases covered
  | cons range rest inductionHypothesis =>
      rw [Ranges.covers, Bool.and_eq_true_iff, Bool.or_eq_true_iff, Bool.and_eq_true_iff,
        Nat.ble_eq, Nat.ble_eq, Nat.blt_eq] at covered
      rw [Ranges.holds, if_neg (Nat.not_lt_of_le (Nat.le_trans covered.1 above))]
      rcases covered.2 with inside | ⟨behind, later⟩
      · rw [if_pos (Nat.le_trans below inside)]
      · rw [if_neg (Nat.not_le_of_lt (Nat.lt_of_lt_of_le behind above)), inductionHypothesis later]

namespace CaseRun

/-- Whether a run leads to characters. -/
def leadsToCharacters (run : CaseRun) : Bool :=
  Nat.blt run.top 0xD800 || (Nat.blt 0xDFFF run.target && Nat.blt run.top 0x110000)

/-- Whether a run maps letters of words, or leads to characters that belong to no word. -/
def keepsWords (run : CaseRun) : Bool :=
  Ranges.covers run.first run.last alphanumericRanges || run.codes.all alphanumericRanges.holds ||
    (Ranges.skips run.target run.top alphanumericRanges && Nat.blt 0x5F run.target)

/-- What the table is built to keep, run by run. -/
structure IsSound (run : CaseRun) : Prop where
  characters : run.leadsToCharacters = true
  missed : lowerRuns.all (fun other => other.misses run) = true
  dotted : run.avoids (0x130, 0x130) = true
  blank : blankRanges.all run.avoids = true
  words : run.keepsWords = true

end CaseRun

/-- All runs of the table at once: each fact is checked by running through the table. -/
theorem lowerRuns_checked : (lowerRuns.all fun run =>
    run.leadsToCharacters && lowerRuns.all (fun other => other.misses run) &&
      run.avoids (0x130, 0x130) && blankRanges.all run.avoids && run.keepsWords) = true := by
  decide +kernel

theorem CaseRun.isSound {run : CaseRun} (listed : run ∈ lowerRuns) : run.IsSound := by
  have checked := List.all_eq_true.mp lowerRuns_checked run listed
  simp only [Bool.and_eq_true] at checked
  rcases checked with ⟨⟨⟨⟨characters, missed⟩, dotted⟩, blank⟩, words⟩
  exact ⟨characters, missed, dotted, blank, words⟩

/-! ## Lowering twice -/

/-- A character that the table changes is mapped by one of its runs. -/
theorem exists_run_of_lowerChar_ne {c : Char} (changed : lowerChar c ≠ c) :
    Exists fun run : CaseRun => run ∈ lowerRuns ∧ run.covers c.toNat = true ∧
      (lowerChar c).toNat = run.map c.toNat := by
  rw [lowerChar, mapCode] at changed ⊢
  cases found : runFor? lowerRuns c.toNat with
  | none =>
      rw [found] at changed
      exact absurd rfl changed
  | some run =>
      have here := runFor?_eq_some found
      refine ⟨run, here.1, here.2, ?_⟩
      have valid := (CaseRun.isSound here.1).characters
      simp only [CaseRun.leadsToCharacters, Bool.or_eq_true, Bool.and_eq_true, Nat.blt_eq] at valid
      have within := CaseRun.map_within here.2
      have isValid : (run.map c.toNat).isValidChar := by
        unfold Nat.isValidChar
        omega
      change (Char.ofNat (run.map c.toNat)).toNat = _
      rw [Char.ofNat, dif_pos isValid]
      rfl

/-- What the table leads to it leaves alone. -/
theorem lowerChar_lowerChar (c : Char) : lowerChar (lowerChar c) = lowerChar c := by
  by_cases changed : lowerChar c = c
  · rw [changed, changed]
  · rcases exists_run_of_lowerChar_ne changed with ⟨run, listed, covered, leads⟩
    by_contra again
    rcases exists_run_of_lowerChar_ne again with ⟨other, listedOther, coveredOther, _⟩
    have apart : other.misses run = true :=
      List.all_eq_true.mp (CaseRun.isSound listed).missed other listedOther
    rw [leads, CaseRun.covers_map_of_misses apart covered] at coveredOther
    cases coveredOther

theorem lowerChar_ne_capitalSigma (c : Char) : lowerChar c ≠ capitalSigma := by
  intro same
  have kept := lowerChar_lowerChar c
  rw [same] at kept
  exact absurd kept (by decide)

theorem lowerChar_ne_dottedI {c : Char} (other : c ≠ dottedI) : lowerChar c ≠ dottedI := by
  intro same
  have changed : lowerChar c ≠ c := fun kept => other (kept.symm.trans same)
  rcases exists_run_of_lowerChar_ne changed with ⟨run, listed, covered, leads⟩
  have outside := CaseRun.outside_of_avoids (CaseRun.isSound listed).dotted covered
  have code : run.map c.toNat = 0x130 := leads.symm.trans (congrArg Char.toNat same)
  exact outside.2 ⟨Nat.le_of_eq code.symm, Nat.le_of_eq code⟩

/-! ## Letters and blanks -/

/-- Blanks have no case and show where they stand. -/
theorem blankRanges_caseless : (blankRanges.all fun range =>
    Ranges.skips range.1 range.2 casedRanges && Ranges.skips range.1 range.2 caseIgnorableRanges) =
      true := by
  decide +kernel

theorem caseless_of_isBlank {c : Char} (blank : isBlank c = true) :
    isCased c = false ∧ isCaseIgnorable c = false := by
  rcases (isBlank_iff c).mp blank with ⟨range, listed, above, below⟩
  have apart := Bool.and_eq_true_iff.mp (List.all_eq_true.mp blankRanges_caseless range listed)
  exact ⟨Ranges.holds_of_skips apart.1 above below, Ranges.holds_of_skips apart.2 above below⟩

/-- Neither a letter that the table changes nor what it leads to is blank. -/
theorem isBlank_eq_false_of_changed {c : Char} (changed : lowerChar c ≠ c) :
    isBlank c = false ∧ isBlank (lowerChar c) = false := by
  rcases exists_run_of_lowerChar_ne changed with ⟨run, listed, covered, leads⟩
  have outside : forall range, range ∈ blankRanges ->
      ¬ (range.1 <= c.toNat ∧ c.toNat <= range.2) ∧
        ¬ (range.1 <= run.map c.toNat ∧ run.map c.toNat <= range.2) := by
    intro range member
    have avoided := List.all_eq_true.mp (CaseRun.isSound listed).blank range member
    exact CaseRun.outside_of_avoids avoided covered
  simp only [← Bool.not_eq_true, isBlank_iff, leads]
  constructor
  · rintro ⟨range, member, inside⟩
    exact (outside range member).1 inside
  · rintro ⟨range, member, inside⟩
    exact (outside range member).2 inside

theorem lowerChar_of_isBlank {c : Char} (blank : isBlank c = true) : lowerChar c = c := by
  by_contra changed
  rw [(isBlank_eq_false_of_changed changed).1] at blank
  cases blank

/-! ## Letters and word characters -/

/-- A character that belongs to no word does not become one that does. -/
theorem isWord_lowerChar {c : Char} (free : isWord c = false) : isWord (lowerChar c) = false := by
  by_cases changed : lowerChar c = c
  · rw [changed, free]
  · rcases exists_run_of_lowerChar_ne changed with ⟨run, listed, covered, leads⟩
    have bounds := CaseRun.covers_iff.mp covered
    have notAlphanumeric : alphanumericRanges.holds c.toNat ≠ true := by
      rw [isWord, Bool.or_eq_false_iff] at free
      exact Bool.eq_false_iff.mp free.2
    have kept := (CaseRun.isSound listed).words
    rw [CaseRun.keepsWords, Bool.or_eq_true_iff, Bool.or_eq_true_iff, Bool.and_eq_true_iff,
      Nat.blt_eq] at kept
    rcases kept with (whole | each) | ⟨skipped, high⟩
    · exact absurd (Ranges.holds_of_covers whole bounds.1 bounds.2.1) notAlphanumeric
    · exact absurd (List.all_eq_true.mp each _ (CaseRun.mem_codes covered)) notAlphanumeric
    · exact isWord_of_skips run.target run.top skipped (leads ▸ CaseRun.map_within covered)
        (Or.inr high)

/-! ## Lower case in context -/

/-- Whether a letter with case is seen looking back from the end of a text, given whether one is
seen looking back from its start. -/
def casedBehind (afterCased : Bool) : Text -> Bool
  | [] => afterCased
  | c :: text => casedBehind (if isCaseIgnorable c then afterCased else isCased c) text

/-- The lower-case form of a part of a text, given whether a letter with case is seen before it and
the text behind it. -/
def lowerWithin (afterCased : Bool) : Text -> Text -> Text
  | [], _ => []
  | c :: text, following =>
      lowerForm afterCased c (text ++ following) ++
        lowerWithin (if isCaseIgnorable c then afterCased else isCased c) text following

/-- Whether a capital sigma takes its final form between two texts. -/
def isFinalBetween (before after : Text) : Bool := casedBehind false before && !leadsWithCased after

theorem casedBehind_append (afterCased : Bool) (left right : Text) :
    casedBehind afterCased (left ++ right) = casedBehind (casedBehind afterCased left) right := by
  induction left generalizing afterCased with
  | nil => rfl
  | cons c left inductionHypothesis => exact inductionHypothesis _

theorem lowerWithin_append (afterCased : Bool) (left right following : Text) :
    lowerWithin afterCased (left ++ right) following =
      lowerWithin afterCased left (right ++ following) ++
        lowerWithin (casedBehind afterCased left) right following := by
  induction left generalizing afterCased with
  | nil => rfl
  | cons c left inductionHypothesis =>
      rw [List.cons_append, lowerWithin, lowerWithin, casedBehind, inductionHypothesis,
        List.append_assoc, List.append_assoc]

theorem lowerAfter_eq_lowerWithin (afterCased : Bool) (text : Text) :
    lowerAfter afterCased text = lowerWithin afterCased text [] := by
  induction text generalizing afterCased with
  | nil => rfl
  | cons c text inductionHypothesis =>
      rw [lowerAfter, lowerWithin, inductionHypothesis, List.append_nil]

theorem lower_eq_lowerWithin (text : Text) : lower text = lowerWithin false text [] :=
  lowerAfter_eq_lowerWithin false text

/-- Characters that are passed over do not change what is seen before them. -/
theorem casedBehind_of_ignorable {text : Text}
    (ignorable : forall c, c ∈ text -> isCaseIgnorable c = true) (afterCased : Bool) :
    casedBehind afterCased text = afterCased := by
  induction text with
  | nil => rfl
  | cons c text inductionHypothesis =>
      rw [casedBehind, if_pos (ignorable c List.mem_cons_self)]
      exact inductionHypothesis fun d member => ignorable d (List.mem_cons_of_mem c member)

/-- A character that is not passed over hides what stands before it. -/
theorem casedBehind_of_seen {text : Text} {c : Char} (member : c ∈ text)
    (seen : isCaseIgnorable c = false) (first second : Bool) :
    casedBehind first text = casedBehind second text := by
  induction text generalizing first second with
  | nil => cases member
  | cons d text inductionHypothesis =>
      rw [casedBehind, casedBehind]
      rcases List.mem_cons.mp member with same | later
      · rw [← same, seen]
        rfl
      · exact inductionHypothesis later _ _

theorem leadsWithCased_of_ignorable {text : Text}
    (ignorable : forall c, c ∈ text -> isCaseIgnorable c = true) (following : Text) :
    leadsWithCased (text ++ following) = leadsWithCased following := by
  rw [leadsWithCased, List.dropWhile_append_of_pos ignorable]
  rfl

theorem leadsWithCased_of_seen {text : Text} {c : Char} (member : c ∈ text)
    (seen : isCaseIgnorable c = false) (following : Text) :
    leadsWithCased (text ++ following) = leadsWithCased text := by
  have left : text.dropWhile isCaseIgnorable ≠ [] := by
    intro nothing
    rw [List.dropWhile_eq_nil_iff.mp nothing c member] at seen
    cases seen
  rw [leadsWithCased, leadsWithCased, List.dropWhile_append,
    if_neg (by rw [List.isEmpty_iff]; exact left)]
  rcases List.exists_cons_of_ne_nil left with ⟨d, rest, same⟩
  rw [same]
  rfl

/-- Either a text is passed over as a whole, or what leads it does not depend on what follows. -/
theorem leadsWithCased_append_cases (text : Text) :
    ((forall c, c ∈ text -> isCaseIgnorable c = true) ∧ leadsWithCased text = false) ∨
      forall following : Text, leadsWithCased (text ++ following) = leadsWithCased text := by
  by_cases ignorable : forall c, c ∈ text -> isCaseIgnorable c = true
  · left
    have alone := leadsWithCased_of_ignorable ignorable []
    rw [List.append_nil] at alone
    exact ⟨ignorable, alone⟩
  · right
    push Not at ignorable
    rcases ignorable with ⟨c, member, seen⟩
    exact leadsWithCased_of_seen member (Bool.eq_false_iff.mpr seen)

/-- What no letter with case leads changes nothing for a text before it. -/
theorem leadsWithCased_append {following : Text} (caseless : leadsWithCased following = false)
    (text : Text) : leadsWithCased (text ++ following) = leadsWithCased text := by
  rcases leadsWithCased_append_cases text with ⟨ignorable, alone⟩ | kept
  · rw [leadsWithCased_of_ignorable ignorable, caseless, alone]
  · exact kept following

theorem leadsWithCased_append_of_leads {text : Text} (leads : leadsWithCased text = true)
    (following : Text) : leadsWithCased (text ++ following) = true := by
  rcases leadsWithCased_append_cases text with ⟨_, alone⟩ | kept
  · rw [alone] at leads
    cases leads
  · rw [kept, leads]

/-! ## Single letters -/

/-- The form of a capital sigma, given whether a letter with case is seen before it and the text
behind it. -/
def sigmaForm (afterCased : Bool) (following : Text) : Char :=
  if afterCased && !leadsWithCased following then finalSigma else smallSigma

theorem sigmaForm_cases (afterCased : Bool) (following : Text) :
    sigmaForm afterCased following = finalSigma ∨ sigmaForm afterCased following = smallSigma := by
  unfold sigmaForm
  split
  · exact Or.inl rfl
  · exact Or.inr rfl

theorem sigmaForm_eq_iff {first second : Bool} {after other : Text} :
    sigmaForm first after = sigmaForm second other ↔
      (first && !leadsWithCased after) = (second && !leadsWithCased other) := by
  have different : finalSigma ≠ smallSigma := by decide
  unfold sigmaForm
  cases first && !leadsWithCased after <;> cases second && !leadsWithCased other <;>
    simp [different, Ne.symm different]

/-- A letter is a capital sigma, a dotted capital I, or lowered by the table. -/
theorem lowerForm_cases (afterCased : Bool) (c : Char) (following : Text) :
    (c = capitalSigma ∧ lowerForm afterCased c following = [sigmaForm afterCased following]) ∨
    (c = dottedI ∧ lowerForm afterCased c following = ['i', Char.ofNat 0x307]) ∨
    (c ≠ capitalSigma ∧ c ≠ dottedI ∧ lowerForm afterCased c following = [lowerChar c]) := by
  unfold lowerForm
  by_cases sigma : c = capitalSigma
  · left
    rw [if_pos (show c = Char.ofNat 0x3A3 from sigma)]
    exact ⟨sigma, rfl⟩
  · right
    rw [if_neg (show c ≠ Char.ofNat 0x3A3 from sigma)]
    by_cases dotted : c = dottedI
    · rw [if_pos (show c = Char.ofNat 0x130 from dotted)]
      exact Or.inl ⟨dotted, rfl⟩
    · rw [if_neg (show c ≠ Char.ofNat 0x130 from dotted)]
      exact Or.inr ⟨sigma, dotted, rfl⟩

/-- A character that lowering leaves as it is, wherever it stands. -/
def IsLowered (c : Char) : Prop := lowerChar c = c ∧ c ≠ capitalSigma ∧ c ≠ dottedI

instance : DecidablePred IsLowered :=
  fun c => inferInstanceAs (Decidable (lowerChar c = c ∧ c ≠ capitalSigma ∧ c ≠ dottedI))

theorem isLowered_lowerChar {c : Char} (other : c ≠ dottedI) : IsLowered (lowerChar c) :=
  ⟨lowerChar_lowerChar c, lowerChar_ne_capitalSigma c, lowerChar_ne_dottedI other⟩

theorem isLowered_of_isBlank {c : Char} (blank : isBlank c = true) : IsLowered c := by
  refine ⟨lowerChar_of_isBlank blank, ?_, ?_⟩ <;>
    · intro same
      rw [same] at blank
      cases blank

theorem isLowered_of_mem_lowerForm {afterCased : Bool} {c d : Char} {following : Text}
    (shown : d ∈ lowerForm afterCased c following) : IsLowered d := by
  have sigmas : IsLowered finalSigma ∧ IsLowered smallSigma := by decide
  have parts : IsLowered 'i' ∧ IsLowered (Char.ofNat 0x307) := by decide
  rcases lowerForm_cases afterCased c following with ⟨_, form⟩ | ⟨_, form⟩ | ⟨_, other, form⟩
  · rw [form, List.mem_singleton] at shown
    rcases sigmaForm_cases afterCased following with final | small
    · rw [shown, final]
      exact sigmas.1
    · rw [shown, small]
      exact sigmas.2
  · rw [form, List.mem_pair] at shown
    rcases shown with letter | dot
    · exact letter ▸ parts.1
    · exact dot ▸ parts.2
  · rw [form, List.mem_singleton] at shown
    exact shown ▸ isLowered_lowerChar other

theorem lowerForm_of_isLowered {c : Char} (lowered : IsLowered c) (afterCased : Bool)
    (following : Text) : lowerForm afterCased c following = [c] := by
  rcases lowerForm_cases afterCased c following with ⟨sigma, _⟩ | ⟨dotted, _⟩ | ⟨_, _, form⟩
  · exact absurd sigma lowered.2.1
  · exact absurd dotted lowered.2.2
  · rw [form, lowered.1]

/-- Only the dotted capital I becomes more than one character. -/
theorem length_lowerForm (afterCased : Bool) (c : Char) (following : Text) :
    (lowerForm afterCased c following).length = 1 + if c = dottedI then 1 else 0 := by
  rcases lowerForm_cases afterCased c following with
    ⟨sigma, form⟩ | ⟨dotted, form⟩ | ⟨_, other, form⟩
  · rw [form, sigma]
    rfl
  · rw [form, if_pos dotted]
    rfl
  · rw [form, if_neg other]
    rfl

theorem lowerForm_ne_nil (afterCased : Bool) (c : Char) (following : Text) :
    lowerForm afterCased c following ≠ [] := by
  intro nothing
  have length := length_lowerForm afterCased c following
  rw [nothing, List.length_nil] at length
  omega

theorem lowerForm_eq_iff {first second : Bool} {c : Char} {after other : Text} :
    lowerForm first c after = lowerForm second c other ↔
      (c = capitalSigma ->
        (first && !leadsWithCased after) = (second && !leadsWithCased other)) := by
  rcases lowerForm_cases first c after with ⟨sigma, form⟩ | ⟨dotted, form⟩ | ⟨noSigma, noDot, form⟩
  · have formToo : lowerForm second c other = [sigmaForm second other] := by
      rw [sigma]
      rfl
    rw [form, formToo, List.singleton_inj, sigmaForm_eq_iff]
    exact ⟨fun same _ => same, fun same => same sigma⟩
  · have noSigma : c ≠ capitalSigma := by
      rw [dotted]
      decide
    rw [dotted]
    exact iff_of_true rfl fun sigma => absurd (dotted.trans sigma) noSigma
  · rcases lowerForm_cases second c other with ⟨sigma, _⟩ | ⟨dotted, _⟩ | ⟨_, _, formToo⟩
    · exact absurd sigma noSigma
    · exact absurd dotted noDot
    · exact iff_of_true (form.trans formToo.symm) fun sigma => absurd sigma noSigma

/-! ## Whole texts -/

theorem isLowered_of_mem_lowerWithin {afterCased : Bool} {text following : Text} {d : Char}
    (shown : d ∈ lowerWithin afterCased text following) : IsLowered d := by
  induction text generalizing afterCased with
  | nil => cases shown
  | cons c text inductionHypothesis =>
      rcases List.mem_append.mp shown with here | later
      · exact isLowered_of_mem_lowerForm here
      · exact inductionHypothesis later

theorem lowerWithin_of_isLowered {text : Text} (lowered : forall c, c ∈ text -> IsLowered c)
    (afterCased : Bool) (following : Text) : lowerWithin afterCased text following = text := by
  induction text generalizing afterCased with
  | nil => rfl
  | cons c text inductionHypothesis =>
      rw [lowerWithin, lowerForm_of_isLowered (lowered c List.mem_cons_self),
        inductionHypothesis fun d member => lowered d (List.mem_cons_of_mem c member)]
      rfl

theorem lower_lower (text : Text) : lower (lower text) = lower text := by
  rw [lower_eq_lowerWithin (lower text)]
  apply lowerWithin_of_isLowered
  intro c shown
  rw [lower_eq_lowerWithin] at shown
  exact isLowered_of_mem_lowerWithin shown

theorem length_lowerWithin (afterCased : Bool) (text following : Text) :
    (lowerWithin afterCased text following).length = text.length + text.count dottedI := by
  induction text generalizing afterCased with
  | nil => rfl
  | cons c text inductionHypothesis =>
      rw [lowerWithin, List.length_append, length_lowerForm, inductionHypothesis, List.length_cons,
        List.count_cons]
      simp only [beq_iff_eq]
      omega

theorem length_lower (text : Text) : (lower text).length = text.length + text.count dottedI := by
  rw [lower_eq_lowerWithin, length_lowerWithin]

/-- What a part of a text becomes changes with its surroundings only where a capital sigma does. -/
theorem lowerWithin_eq_iff {first second : Bool} {text after other : Text} :
    lowerWithin first text after = lowerWithin second text other ↔
      forall front back : Text, text = front ++ capitalSigma :: back ->
        (casedBehind first front && !leadsWithCased (back ++ after)) =
          (casedBehind second front && !leadsWithCased (back ++ other)) := by
  induction text generalizing first second with
  | nil => simp [lowerWithin]
  | cons c text inductionHypothesis =>
      have lengths : (lowerForm first c (text ++ after)).length =
          (lowerForm second c (text ++ other)).length := by
        rw [length_lowerForm, length_lowerForm]
      rw [lowerWithin, lowerWithin]
      constructor
      · intro same front back parts
        have both := List.append_inj same lengths
        cases front with
        | nil =>
            rcases List.cons.inj parts with ⟨sigma, rest⟩
            exact rest ▸ lowerForm_eq_iff.mp both.1 sigma
        | cons d front =>
            rcases List.cons.inj parts with ⟨here, rest⟩
            exact here ▸ inductionHypothesis.mp both.2 front back rest
      · intro same
        have head : lowerForm first c (text ++ after) = lowerForm second c (text ++ other) :=
          lowerForm_eq_iff.mpr fun sigma => same [] text (by rw [sigma]; rfl)
        have tail := inductionHypothesis.mpr fun front back parts =>
          same (c :: front) back (by rw [parts]; rfl)
        rw [head, tail]

/-! ## Classes that lowering leads nothing into -/

/-- What is not of a class does not become so by lowering. -/
def LowersOut (p : Char -> Bool) : Prop :=
  forall (c : Char), p c = false -> forall (afterCased : Bool) (following : Text),
    forall d, d ∈ lowerForm afterCased c following -> p d = false

/-- What the letters with a form of their own become has to be looked at apart from the table. -/
theorem lowersOut_of_letters {p : Char -> Bool}
    (sigmas : p finalSigma = false ∧ p smallSigma = false)
    (parts : p 'i' = false ∧ p (Char.ofNat 0x307) = false)
    (letters : forall c, p c = false -> p (lowerChar c) = false) : LowersOut p := by
  intro c free afterCased following d shown
  rcases lowerForm_cases afterCased c following with ⟨_, form⟩ | ⟨_, form⟩ | ⟨_, _, form⟩
  · rw [form, List.mem_singleton] at shown
    rcases sigmaForm_cases afterCased following with final | small
    · rw [shown, final, sigmas.1]
    · rw [shown, small, sigmas.2]
  · rw [form, List.mem_pair] at shown
    rcases shown with letter | dot
    · rw [letter, parts.1]
    · rw [dot, parts.2]
  · rw [form, List.mem_singleton] at shown
    rw [shown, letters c free]

theorem lowersOut_isBlank : LowersOut isBlank := by
  apply lowersOut_of_letters ⟨rfl, rfl⟩ ⟨rfl, rfl⟩
  intro c free
  by_cases changed : lowerChar c = c
  · rw [changed, free]
  · exact (isBlank_eq_false_of_changed changed).2

/-- Both letters with a form of their own belong to words. -/
theorem lowersOut_isWord : LowersOut isWord := by
  intro c free afterCased following d shown
  have special : isWord capitalSigma = true ∧ isWord dottedI = true := ⟨rfl, rfl⟩
  rcases lowerForm_cases afterCased c following with ⟨sigma, _⟩ | ⟨dotted, _⟩ | ⟨_, _, form⟩
  · rw [sigma, special.1] at free
    cases free
  · rw [dotted, special.2] at free
    cases free
  · rw [form, List.mem_singleton] at shown
    exact shown ▸ isWord_lowerChar free

namespace LowersOut

variable {p : Char -> Bool} {afterCased : Bool} {text following : Text}

theorem head? (out : LowersOut p) (free : text.head?.any p = false) :
    (lowerWithin afterCased text following).head?.any p = false := by
  cases text with
  | nil => rfl
  | cons c text =>
      rcases List.exists_cons_of_ne_nil (lowerForm_ne_nil afterCased c (text ++ following)) with
        ⟨d, rest, form⟩
      rw [lowerWithin, form, List.cons_append, List.head?_cons, Option.any_some]
      exact out c free afterCased (text ++ following) d (form ▸ List.mem_cons_self)

theorem getLast? (out : LowersOut p) (free : text.getLast?.any p = false) :
    (lowerWithin afterCased text following).getLast?.any p = false := by
  rcases List.eq_nil_or_concat text with empty | ⟨front, c, parts⟩
  · rw [empty]
    rfl
  · rw [parts, List.concat_eq_append] at free ⊢
    rw [List.getLast?_concat, Option.any_some] at free
    have shown := lowerForm_ne_nil (casedBehind afterCased front) c ([] ++ following)
    rw [lowerWithin_append, lowerWithin, lowerWithin, List.append_nil,
      List.getLast?_append_of_ne_nil _ shown, List.getLast?_eq_some_getLast shown, Option.any_some]
    exact out c free _ _ _ (List.getLast_mem shown)

theorem forall_mem (out : LowersOut p) (free : forall c, c ∈ text -> p c = false) :
    forall d, d ∈ lowerWithin afterCased text following -> p d = false := by
  induction text generalizing afterCased with
  | nil => exact fun d impossible => absurd impossible List.not_mem_nil
  | cons c text inductionHypothesis =>
      intro d shown
      rcases List.mem_append.mp shown with here | later
      · exact out c (free c List.mem_cons_self) _ _ d here
      · exact inductionHypothesis (fun e member => free e (List.mem_cons_of_mem c member)) d later

end LowersOut

end Text
end Switchboard
