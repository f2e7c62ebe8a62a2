import Switchboard.Text.Blank
import Switchboard.Text.Word

namespace Switchboard
namespace Text

/-!
# Blanks are no word characters

The two classes come from different tables, so this is a fact about the tables.  Each stretch of
code points with blanks in it is looked up once, as a whole, in the table of the word characters.
-/

/-- Whether the ranges leave out the code points from one to another. -/
def Ranges.skips (first last : Nat) : Ranges -> Bool
  | [] => true
  | (lower, upper) :: rest =>
      if Nat.blt last lower then true
      else Nat.blt upper first && Ranges.skips first last rest

theorem Ranges.holds_of_skips {ranges : Ranges} {first last code : Nat}
    (skipped : ranges.skips first last = true) (above : first <= code) (below : code <= last) :
    ranges.holds code = false := by
  induction ranges with
  | nil => rfl
  | cons range rest inductionHypothesis =>
      rw [Ranges.skips] at skipped
      rw [Ranges.holds]
      split at skipped
      · rename_i before
        rw [if_pos (Nat.lt_of_le_of_lt below (Nat.blt_eq.mp before))]
      · rcases Bool.and_eq_true_iff.mp skipped with ⟨behind, later⟩
        rw [inductionHypothesis later,
          if_neg (Nat.not_le_of_lt (Nat.lt_of_lt_of_le (Nat.blt_eq.mp behind) above))]
        split <;> rfl

/-- Where the table leaves out a stretch of code points, the low line is the only word character. -/
theorem isWord_of_skips {c : Char} (first last : Nat)
    (skipped : alphanumericRanges.skips first last = true)
    (inside : first <= c.toNat ∧ c.toNat <= last) (noLowLine : last < 0x5F ∨ 0x5F < first) :
    isWord c = false := by
  have different : c ≠ '_' := by
    intro same
    have code : c.toNat = 0x5F := congrArg Char.toNat same
    omega
  rw [isWord, isAlphanumeric, Ranges.holds_of_skips skipped inside.1 inside.2, Bool.or_false,
    beq_eq_false_iff_ne]
  exact different

theorem isWord_of_isBlank {c : Char} (blank : isBlank c = true) : isWord c = false := by
  simp only [isBlank, Bool.or_eq_true, Bool.and_eq_true, decide_eq_true_eq, beq_iff_eq] at blank
  have stretches : (0x09 <= c.toNat ∧ c.toNat <= 0x20) ∨ (0x85 <= c.toNat ∧ c.toNat <= 0xA0) ∨
      (0x1680 <= c.toNat ∧ c.toNat <= 0x1680) ∨ (0x2000 <= c.toNat ∧ c.toNat <= 0x205F) ∨
      (0x3000 <= c.toNat ∧ c.toNat <= 0x3000) := by
    omega
  rcases stretches with ascii | latin | ogham | punctuation | ideographic
  · exact isWord_of_skips 0x09 0x20 rfl ascii (by decide)
  · exact isWord_of_skips 0x85 0xA0 (by decide +kernel) latin (by decide)
  · exact isWord_of_skips 0x1680 0x1680 (by decide +kernel) ogham (by decide)
  · exact isWord_of_skips 0x2000 0x205F (by decide +kernel) punctuation (by decide)
  · exact isWord_of_skips 0x3000 0x3000 (by decide +kernel) ideographic (by decide)

end Text
end Switchboard
