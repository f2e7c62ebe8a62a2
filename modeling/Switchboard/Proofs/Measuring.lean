import Switchboard.Proofs.Lowering
import Switchboard.Proofs.Matching

namespace Switchboard

open Text

/-!
# What a rule by length measures

A rule without phrases and patterns goes by the length of a message alone.  Phrases that are blank
take no part in any test, so a rule whose phrases are all blank is such a rule, too.

What it measures is the message as rules see it, lowered after it has been trimmed, and the dotted
capital I is lowered to two characters.  So the rule compares its limit with the length of the
trimmed message and the number of these letters in it.  A message that is short by its own length
misses the rule exactly if these letters carry it to the limit.
-/

namespace RuleSettings

theorem hasTextTests_eq_false_iff {settings : RuleSettings} : settings.hasTextTests = false ↔
    settings.exact = [] ∧ settings.beginnings = [] ∧ settings.contains = [] ∧ settings.words = [] ∧
      settings.patterns = [] := by
  simp [hasTextTests, and_assoc]

/-- Whether a rule is given a phrase that is not blank, or a search pattern. -/
def hasFilledTests (settings : RuleSettings) : Bool := settings.withoutBlank.hasTextTests

theorem dropBlank_eq_nil_iff {phrases : List Text} : dropBlank phrases = [] ↔
    forall phrase, phrase ∈ phrases -> isBlankText phrase = true := by
  simp [dropBlank, List.filter_eq_nil_iff]

theorem hasFilledTests_iff {settings : RuleSettings} : settings.hasFilledTests = true ↔
    dropBlank settings.exact ≠ [] ∨ dropBlank settings.beginnings ≠ [] ∨
      dropBlank settings.contains ≠ [] ∨ dropBlank settings.words ≠ [] ∨
        settings.patterns ≠ [] := by
  rw [← Bool.not_eq_false, hasFilledTests, hasTextTests_eq_false_iff]
  simp only [not_and_or]
  rfl

theorem hasFilledTests_eq_false_iff {settings : RuleSettings} : settings.hasFilledTests = false ↔
    (forall phrase,
      phrase ∈ settings.exact ++ settings.beginnings ++ settings.contains ++ settings.words ->
        isBlankText phrase = true) ∧ settings.patterns = [] := by
  rw [← Bool.not_eq_true, hasFilledTests_iff]
  simp only [not_or, Decidable.not_not, dropBlank_eq_nil_iff, List.forall_mem_append, and_assoc]

/-- Without a filled phrase and without a pattern only the length of a message counts. -/
theorem applies_iff_of_byLength [CharacterNames] {settings : RuleSettings}
    (byLength : settings.hasFilledTests = false) {message : Text} : settings.Applies message ↔
      Exists fun limit : Nat => settings.maxChars = some limit ∧ message.length < limit := by
  rcases hasFilledTests_eq_false_iff.mp byLength with ⟨blank, noPattern⟩
  simp only [List.forall_mem_append] at blank
  have never : forall phrase : Text,
      isBlankText phrase = true -> isBlankText phrase = false -> False := by
    intro phrase isBlank filled
    rw [isBlank] at filled
    cases filled
  constructor
  · intro why
    cases why with
    | exact listed filled _ => exact (never _ (blank.1.1.1 _ listed) filled).elim
    | beginning listed filled _ => exact (never _ (blank.1.1.2 _ listed) filled).elim
    | contained listed filled _ => exact (never _ (blank.1.2 _ listed) filled).elim
    | bounded listed filled _ => exact (never _ (blank.2 _ listed) filled).elim
    | pattern listed _ _ =>
        rw [noPattern] at listed
        cases listed
    | short given shorter => exact ⟨_, given, shorter⟩
  · rintro ⟨limit, given, shorter⟩
    exact .short given shorter

end RuleSettings

theorem length_normalize (message : Text) :
    (normalize message).length = (trim message).length + (trim message).count dottedI :=
  length_lower (trim message)

theorem normalize_eq_nil_iff (message : Text) :
    normalize message = [] ↔ isBlankText message = true := by
  rw [← isEmpty_trim, List.isEmpty_iff, ← List.length_eq_zero_iff, length_normalize]
  constructor
  · intro nothing
    exact List.length_eq_zero_iff.mp (by omega)
  · intro empty
    rw [empty]
    rfl

namespace RuleList

variable {settings : List RuleSettings} {fallback : Text} {list : RuleList}

/-- A rule by length compares its limit with the length of the trimmed message and the number of
dotted capitals in it.  That is the length of the trimmed message itself exactly if these letters do
not make the difference.  The rule is found by the messages it matches that no rule before it
matches. -/
theorem length_rule_is_found_iff [CharacterNames] (compiled : compile settings fallback = .ok list)
    {place : Nat}
    {here : RuleSettings} (found : settings[place]? = some here)
    (byLength : here.hasFilledTests = false) {limit : Nat} (given : here.maxChars = some limit) :
    Exists fun rule : Rule => list.rules[place]? = some rule ∧ forall message : Text,
      isBlankText message = false ->
        let length := (trim message).length
        let dotted := (trim message).count dottedI
        (rule.isMatch (normalize message) = true ↔ length + dotted < limit) ∧
        ((rule.isMatch (normalize message) = true ↔ length < limit) ↔
          ¬ (length < limit ∧ limit <= length + dotted)) ∧
        ((forall (earlier : Nat) (other : RuleSettings), earlier < place ->
            settings[earlier]? = some other -> ¬ other.Applies (normalize message)) ->
          (list.match? message = some rule ↔ length + dotted < limit)) := by
  rcases getElem?_of_compile compiled found with ⟨rule, listed, made⟩
  refine ⟨rule, listed, ?_⟩
  intro message filled length dotted
  have applies : here.Applies (normalize message) ↔ length + dotted < limit := by
    rw [here.applies_iff_of_byLength byLength, given, length_normalize]
    exact ⟨fun ⟨_, same, shorter⟩ => Option.some.inj same ▸ shorter,
      fun shorter => ⟨limit, rfl, shorter⟩⟩
  have matched := (Rule.isMatch_iff made (normalize message)).trans applies
  refine ⟨matched, ?_, ?_⟩
  · rw [matched]
    omega
  · intro unmatched
    rw [← applies, match?_eq_some_iff compiled]
    have index := (Rule.of_compile made).1
    constructor
    · rintro ⟨_, there, first, _⟩
      have same := first.found
      rw [index, found] at same
      exact Option.some.inj same ▸ first.applies
    · intro applied
      refine ⟨?_, here, index.symm ▸ ⟨found, applied, unmatched⟩, index.symm ▸ made⟩
      rw [Ne, normalize_eq_nil_iff, filled]
      exact Bool.false_ne_true

/-- A rule for a word and a rule by length behind it, which is also given a blank word. -/
def wordAndLength : List RuleSettings :=
  [{ category := ['w'], words := [['x']] },
    { category := ['s'], words := [[' ']], maxChars := some 4 }]

/-- Two letters, one of them dotted, are three characters for the rule and still short. -/
theorem length_rule_is_found_iff_one_dotted :
    Exists fun list : RuleList => Exists fun rule : Rule =>
      compile wordAndLength ['c'] = .ok list ∧ list.rules[1]? = some rule ∧
        (trim [' ', 'a', dottedI]).length + (trim [' ', 'a', dottedI]).count dottedI < 4 ∧
        list.match? [' ', 'a', dottedI] = some rule := by
  have compiled : compile wordAndLength ['c'] = .ok _ := rfl
  rcases @length_rule_is_found_iff _ _ _ _ compiled 1 _ rfl rfl _ rfl with ⟨rule, listed, measured⟩
  have short :
      (trim [' ', 'a', dottedI]).length + (trim [' ', 'a', dottedI]).count dottedI < 4 := by decide
  refine ⟨_, rule, compiled, listed, short, ((measured _ rfl).2.2 ?_).mpr short⟩
  intro earlier other before there applies
  rw [Nat.lt_one_iff.mp before] at there
  have made : Rule.compile 0 { category := ['w'], words := [['x']] } = .ok _ := rfl
  have matched := (Rule.isMatch_iff made _).mpr (Option.some.inj there ▸ applies)
  cases matched

/-- Two letters are fewer than three, but a rule for fewer than three characters does not match
them: they are lowered to four. -/
theorem length_rule_misses_two_dotted_capitals :
    Exists fun list : RuleList => Exists fun rule : Rule =>
      compile [{ category := ['s'], maxChars := some 3 }] ['c'] = .ok list ∧
        list.rules = [rule] ∧ (trim [dottedI, dottedI]).length < 3 ∧
        rule.isMatch (normalize [dottedI, dottedI]) = false ∧
        list.classify [dottedI, dottedI] = ['c'] :=
  ⟨_, _, rfl, rfl, by decide, rfl, rfl⟩

end RuleList
end Switchboard
