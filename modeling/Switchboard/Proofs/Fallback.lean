import Switchboard.Proofs.Covering
import Switchboard.Proofs.Reporting

namespace Switchboard

open Text

/-!
# How the fallback category is assigned

The fallback category stands for messages that nothing is known about, so no phrase and no pattern
may assign it.  A rule for it is refused unless it goes by length alone, and the names of both are
trimmed before they are compared, so blanks around either of them do not let another rule through.

A message gets the fallback in two ways: no test of any rule holds of it, which is so for every blank
message, or it is below the limit of a rule by length and no test of any rule before that one holds.
-/

namespace RuleList

/-- No rule is found exactly if the message is blank or no test of any rule holds. -/
theorem match?_eq_none_iff_tests (list : RuleList) (message : Text) :
    list.match? message = none ↔ isBlankText message = true ∨
      forall rule, rule ∈ list.rules -> forall test, test ∈ rule.tests ->
        test.holds (normalize message) = false := by
  rw [← normalize_eq_nil_iff, match?]
  by_cases empty : normalize message = []
  · simp [empty]
  · have filled : (normalize message).isEmpty = false := by simpa using empty
    simp [filled, empty, List.find?_eq_none, Rule.isMatch]

variable [CharacterNames] {settings : List RuleSettings} {fallback : Text} {list : RuleList}

/-- A rule for the fallback category goes by length alone. -/
theorem lengthOnly_of_fallback (compiled : compile settings fallback = .ok list) {rule : Rule}
    (listed : rule ∈ list.rules) (falls : rule.category = fallback) : rule.lengthOnly = true := by
  have passed := List.find?_eq_none.mp (compile_eq_ok_iff.mp compiled).2.2 rule listed
  simpa [falls] using passed

/-- No test of a rule before the one that is found holds. -/
theorem tests_before_match? (compiled : compile settings fallback = .ok list) {message : Text}
    {rule : Rule} (matched : list.match? message = some rule) {earlier : Rule}
    (listed : earlier ∈ list.rules) (before : earlier.index < rule.index) {test : Test}
    (member : test ∈ earlier.tests) : test.holds (normalize message) = false := by
  rcases (match?_eq_some_iff compiled).mp matched with ⟨_, _, first, _⟩
  rcases List.getElem?_of_mem listed with ⟨place, standing⟩
  rw [index_of_getElem? compiled standing] at before
  rcases compile_of_getElem? compiled standing with ⟨other, found, made⟩
  have unfit := first.before place other before found
  rw [← Rule.isMatch_iff made, Bool.not_eq_true] at unfit
  exact Bool.eq_false_iff.mpr (List.any_eq_false.mp unfit test member)

end RuleList

namespace Tables

/-- A message finds a rule for the fallback category: it is below the limit of the rule, which has
no other test, and no test of any rule before it holds. -/
structure FallsByLength (tables : Tables) (settings : RouterSettings) (message : Text) (rule : Rule)
    (limit : Nat) : Prop where
  found : tables.rules.match? message = some rule
  category : rule.category = tables.fallback
  given : settings.rules[rule.index]?.bind (·.maxChars) = some limit
  tests : rule.tests = [.isShorterThan limit]
  short : (normalize message).length < limit
  before : forall earlier, earlier ∈ tables.rules.rules -> earlier.index < rule.index ->
    forall test, test ∈ earlier.tests -> test.holds (normalize message) = false

section Built

variable [CharacterNames] {settings : RouterSettings} {tables : Tables}
  (built : build settings = .ok tables)

include built

theorem compile_of_build :
    RuleList.compile settings.rules tables.fallback = .ok tables.rules := by
  rcases build_eq_ok built with ⟨rules, compiled, _, _, same⟩
  rw [same]
  exact (rulesOf_eq_ok compiled).2.2.2

/-- Settings whose category is the fallback behind blanks look at no text. -/
theorem hasTextTests_of_fallback {here : RuleSettings} (listed : here ∈ settings.rules)
    (falls : trim here.category = trim settings.fallback) : here.hasTextTests = false := by
  have compiled := compile_of_build built
  rcases List.getElem?_of_mem listed with ⟨place, found⟩
  rcases RuleList.getElem?_of_compile compiled found with ⟨rule, standing, made⟩
  have category : rule.category = tables.fallback := by
    rw [(Rule.of_compile made).2.1, falls, (fitTogether_of_build built).fallbackName.1]
  have byLength := RuleList.lengthOnly_of_fallback compiled (List.mem_of_getElem? standing) category
  rw [Rule.lengthOnly_of_compile made] at byLength
  simpa using byLength

theorem exists_fallsByLength {message : Text} {rule : Rule}
    (matched : tables.rules.match? message = some rule) (category : rule.category = tables.fallback) :
    Exists fun limit : Nat => tables.FallsByLength settings message rule limit := by
  have compiled := compile_of_build built
  rcases (RuleList.match?_eq_some_iff compiled).mp matched with ⟨_, here, first, made⟩
  have byLength := RuleList.lengthOnly_of_fallback compiled (mem_rules_of_match? matched) category
  rcases Rule.exists_limit_of_lengthOnly made byLength with ⟨limit, given, tests⟩
  have fits := (Rule.isMatch_iff made (normalize message)).mpr first.applies
  refine ⟨limit, matched, category, ?_, tests, ?_, ?_⟩
  · rw [first.found]
    exact given
  · simpa [Rule.isMatch, tests, Test.holds] using fits
  · intro earlier listed before test member
    exact RuleList.tests_before_match? compiled matched listed before member

/-- Rules for the fallback category look at no text, whatever blanks surround the names.  A message
gets the fallback exactly if it finds no rule, because it is blank or no test of any rule holds, or if
it finds a rule by length alone before which no test of any rule holds. -/
theorem fallback_is_never_assigned_by_text (given : Option Text) :
    let message := given.getD []
    (forall here, here ∈ settings.rules -> trim here.category = trim settings.fallback ->
      here.hasTextTests = false) ∧
    (tables.classify message = tables.fallback ↔ tables.rules.match? message = none ∨
      Exists fun rule : Rule => Exists fun limit : Nat =>
        tables.FallsByLength settings message rule limit) ∧
    (tables.rules.match? message = none ↔ isBlankText message = true ∨
      forall rule, rule ∈ tables.rules.rules -> forall test, test ∈ rule.tests ->
        test.holds (normalize message) = false) ∧
    (isBlankText message = true -> tables.classify message = tables.fallback) := by
  intro message
  have silent := tables.rules.match?_eq_none_iff_tests message
  have classified := tables.classify_eq message
  rw [(fitTogether_of_build built).sameFallback] at classified
  have falls : tables.classify message = tables.fallback ↔ tables.rules.match? message = none ∨
      Exists fun rule : Rule => Exists fun limit : Nat =>
        tables.FallsByLength settings message rule limit := by
    rw [classified]
    cases matched : tables.rules.match? message with
    | none => simp
    | some rule =>
        simp only [Option.map_some, Option.getD_some, reduceCtorEq, false_or]
        constructor
        · intro category
          exact ⟨rule, exists_fallsByLength built matched category⟩
        · rintro ⟨other, limit, fall⟩
          have same := Option.some.inj (matched.symm.trans fall.found)
          exact same ▸ fall.category
  exact ⟨fun here => hasTextTests_of_fallback built, falls, silent,
    fun blank => falls.mpr (Or.inl (silent.mpr (Or.inl blank)))⟩

end Built

/-- Settings with a rule for a word and a rule by length for the fallback, whose names have blanks
around them. -/
def shortFallback : RouterSettings :=
  { paddedSettings with
    rules := [{ category := [' ', 'd', ' '], words := [['x']] },
      { category := ['\t', 'c'], maxChars := some 4 }] }

/-- A short message gets the fallback by the limit and a blank one without a rule, and a short one
with the word of the first rule does not get it. -/
theorem fallback_is_never_assigned_by_text_padded :
    Exists fun tables : Tables => build shortFallback = .ok tables ∧
      (Exists fun rule : Rule => Exists fun limit : Nat =>
        tables.FallsByLength shortFallback [' ', 'Y'] rule limit) ∧
      tables.classify ['\n', ' '] = tables.fallback ∧
      ¬ tables.classify [' ', 'X'] = tables.fallback := by
  have built : build shortFallback = .ok _ := rfl
  have assigned := fallback_is_never_assigned_by_text built
  refine ⟨_, built, ?_, (assigned (some ['\n', ' '])).2.2.2 rfl, ?_⟩
  · exact ((assigned (some [' ', 'Y'])).2.1.mp rfl).resolve_left (Option.some_ne_none _)
  · decide

end Tables
end Switchboard
