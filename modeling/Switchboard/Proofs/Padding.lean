import Switchboard.Proofs.Lowering
import Switchboard.Rule.Ordered

namespace Switchboard

open Text

/-!
# Case and padding do not show

A message is trimmed and then lowered before a rule sees it.  The order of the two steps makes no
difference: a blank has no case and is not passed over, so a text between blanks is lowered as if it
stood alone, and no end of a trimmed text becomes blank.

So neither lowering a message, nor trimming it, nor putting blanks around it changes what rules see
of it, and normalising a message again is one more case of that.  Search patterns make no exception.
-/

namespace Text

section Borders

variable {border : Text} (blank : forall c, c ∈ border -> isBlank c = true)

include blank

theorem lowerWithin_border (afterCased : Bool) (following : Text) :
    lowerWithin afterCased border following = border :=
  lowerWithin_of_isLowered (fun c member => isLowered_of_isBlank (blank c member)) afterCased
    following

theorem casedBehind_border : casedBehind false border = false := by
  induction border with
  | nil => rfl
  | cons c border inductionHypothesis =>
      have caseless := caseless_of_isBlank (blank c List.mem_cons_self)
      rw [casedBehind, caseless.1, caseless.2]
      exact inductionHypothesis fun d member => blank d (List.mem_cons_of_mem c member)

theorem leadsWithCased_border : leadsWithCased border = false := by
  cases border with
  | nil => rfl
  | cons c border =>
      have caseless := caseless_of_isBlank (blank c List.mem_cons_self)
      rw [leadsWithCased, List.dropWhile_cons_of_neg (by rw [caseless.2]; exact Bool.false_ne_true)]
      exact caseless.1

end Borders

/-- Between blanks a text is lowered as it is alone. -/
theorem lower_bordered {before after : Text}
    (blankBefore : forall c, c ∈ before -> isBlank c = true)
    (blankAfter : forall c, c ∈ after -> isBlank c = true) (text : Text) :
    lower (before ++ (text ++ after)) = before ++ (lower text ++ after) := by
  have alone : lowerWithin false text after = lowerWithin false text [] := by
    apply lowerWithin_eq_iff.mpr
    intro front back _
    rw [leadsWithCased_append (leadsWithCased_border blankAfter), List.append_nil]
  rw [lower_eq_lowerWithin, lowerWithin_append, lowerWithin_border blankBefore,
    casedBehind_border blankBefore, lowerWithin_append, List.append_nil,
    lowerWithin_border blankAfter, alone, ← lower_eq_lowerWithin]

/-- Lowering a trimmed text leaves it trimmed. -/
theorem trim_lower_trim (text : Text) : trim (lower (trim text)) = lower (trim text) := by
  have start := (Option.any_eq_false isBlank _).mpr (head?_trim text)
  have stop := (Option.any_eq_false isBlank _).mpr (getLast?_trim text)
  rw [lower_eq_lowerWithin]
  exact trim_eq_self ((Option.any_eq_false isBlank _).mp (lowersOut_isBlank.head? start))
    ((Option.any_eq_false isBlank _).mp (lowersOut_isBlank.getLast? stop))

theorem trim_lower (text : Text) : trim (lower text) = lower (trim text) := by
  rcases exists_append_trimStartOf isBlank text with ⟨before, parts, blankBefore⟩
  rcases exists_trimEndOf_append isBlank (trimStart text) with ⟨after, partsToo, blankAfter⟩
  have whole : text = before ++ (trim text ++ after) := by
    conv_lhs => rw [parts, ← trimStart, partsToo]
    rfl
  conv_lhs => rw [whole, lower_bordered blankBefore blankAfter]
  rw [trim_border_append _ blankBefore, trim_append_border _ blankAfter, trim_lower_trim]

end Text

/-! ## Normalised messages -/

theorem normalize_lower (message : Text) : normalize (lower message) = normalize message := by
  rw [normalize, trim_lower, lower_lower]
  rfl

theorem normalize_trim (message : Text) : normalize (trim message) = normalize message := by
  rw [normalize, trim_trim]
  rfl

theorem normalize_normalize (message : Text) :
    normalize (normalize message) = normalize message := by
  conv_lhs => rw [normalize, normalize, trim_lower_trim, lower_lower]
  rfl

theorem normalize_bordered {before after : Text}
    (blankBefore : forall c, c ∈ before -> isBlank c = true)
    (blankAfter : forall c, c ∈ after -> isBlank c = true) (message : Text) :
    normalize (before ++ message ++ after) = normalize message := by
  rw [normalize, trim_append_border _ blankAfter, trim_border_append _ blankBefore]
  rfl

namespace RuleList

/-- Messages that are normalised alike find the same rule. -/
theorem match?_congr (list : RuleList) {first second : Text}
    (alike : normalize first = normalize second) : list.match? first = list.match? second := by
  rw [match?, match?, alike]

theorem classify_congr (list : RuleList) {first second : Text}
    (alike : normalize first = normalize second) : list.classify first = list.classify second := by
  rw [classify, classify, list.match?_congr alike]

/-- Normalising a message is done once and for all, and lowering it, trimming it or putting blanks
around it does not show: neither in what rules see of it nor in the rule that any list of rules
finds for it, nor in its category. -/
theorem classification_ignores_case_and_padding (message : Text) {before after : Text}
    (blankBefore : isBlankText before = true) (blankAfter : isBlankText after = true) :
    normalize (normalize message) = normalize message ∧
      forall variant : Text,
        variant ∈ [lower message, trim message, normalize message, before ++ message ++ after] ->
          normalize variant = normalize message ∧
            forall list : RuleList, list.match? variant = list.match? message ∧
              list.classify variant = list.classify message := by
  refine ⟨normalize_normalize message, ?_⟩
  have alike : forall variant : Text,
      variant ∈ [lower message, trim message, normalize message, before ++ message ++ after] ->
        normalize variant = normalize message := by
    simp only [List.forall_mem_cons]
    exact ⟨normalize_lower message, normalize_trim message, normalize_normalize message,
      normalize_bordered ((isBlankText_iff before).mp blankBefore)
        ((isBlankText_iff after).mp blankAfter) message, fun _ none => absurd none List.not_mem_nil⟩
  intro variant listed
  exact ⟨alike variant listed, fun list =>
    ⟨list.match?_congr (alike variant listed), list.classify_congr (alike variant listed)⟩⟩

/-- A rule with a Greek word as the whole message and one with a search pattern. -/
def wordAndPattern : List RuleSettings :=
  [{ category := ['g'], exact := [ofString "οδος"] },
    { category := ['p'], patterns := [ofString "Σ$"] }]

/-- Between a tab and a line break a capital sigma still ends the word. -/
theorem classification_ignores_case_and_padding_greek :
    Exists fun list : RuleList => compile wordAndPattern ['c'] = .ok list ∧
      list.classify (ofString "ΟΔΟΣ") = ['g'] ∧
      list.classify (ofString "\t ΟΔΟΣ\n") = list.classify (ofString "ΟΔΟΣ") := by
  refine ⟨_, rfl, rfl, ?_⟩
  have alike := classification_ignores_case_and_padding (ofString "ΟΔΟΣ")
    (show isBlankText (ofString "\t ") = true from rfl) (show isBlankText ['\n'] = true from rfl)
  have variants := alike.2 (ofString "\t ΟΔΟΣ\n")
    (List.mem_cons_of_mem _ (List.mem_cons_of_mem _ (List.mem_cons_of_mem _ List.mem_cons_self)))
  exact (variants.2 _).2

end RuleList
end Switchboard
