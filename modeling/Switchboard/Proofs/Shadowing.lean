import Switchboard.Proofs.Measuring

namespace Switchboard

open Text

/-!
# Rules that short messages never reach

A rule with a limit of length matches every short message, whatever else it asks for: its tests are
alternatives.  So a rule that looks at text and stands behind it is never reached by these messages.

The report of hidden rules looks for less.  It compares rules that are given no phrase and no
pattern with rules that are given one, and a rule that is given one besides its limit counts as a
rule of the second kind, even if all its phrases are blank and drop out.  The report misses the
rules hidden behind such a rule, and no others.
-/

/-! ## Tests of a compiled rule -/

theorem mem_phraseTest_iff {phrases : List Text} {prepare : Text -> Text} {test : List Text -> Test}
    {member : Test} : member ∈ phraseTest phrases prepare test ↔
      dropBlank phrases ≠ [] ∧ member = test ((dropBlank phrases).map prepare) := by
  unfold phraseTest
  by_cases nothing : dropBlank phrases = []
  · simp [nothing]
  · simp [nothing, List.isEmpty_iff]

namespace Test

/-- A test that goes by more than the length of a message. -/
def LooksAtText (test : Test) : Prop := forall limit : Nat, test ≠ .isShorterThan limit

end Test

namespace Rule

theorem mem_testsOf_iff {settings : RuleSettings} {patterns : List Pattern} {test : Test} :
    test ∈ testsOf settings patterns ↔
      (dropBlank settings.exact ≠ [] ∧ test = .isOneOf ((dropBlank settings.exact).map normalize)) ∨
      (dropBlank settings.beginnings ≠ [] ∧ test = .startsWithOneOf
        ((dropBlank settings.beginnings).map fun p => lower (trimStart p))) ∨
      (dropBlank settings.contains ≠ [] ∧
        test = .containsOneOf ((dropBlank settings.contains).map lower)) ∨
      (dropBlank settings.words ≠ [] ∧ test = .hasBounded
        (boundedPattern ((dropBlank settings.words).map fun p => lower (trim p)))) ∨
      (patterns ≠ [] ∧ test = .matchesOneOf patterns) ∨
      Exists fun limit : Nat => settings.maxChars = some limit ∧ test = .isShorterThan limit := by
  have pattern : test ∈ (if patterns.isEmpty then [] else [Test.matchesOneOf patterns]) ↔
      patterns ≠ [] ∧ test = .matchesOneOf patterns := by
    cases patterns <;> simp
  have length : test ∈ settings.maxChars.toList.map Test.isShorterThan ↔
      Exists fun limit : Nat => settings.maxChars = some limit ∧ test = .isShorterThan limit := by
    cases settings.maxChars <;> simp
  simp only [testsOf, List.mem_append, mem_phraseTest_iff, pattern, length, or_assoc]

/-- A compiled rule has a test by length exactly if it is given a limit. -/
theorem isShorterThan_mem_testsOf_iff {settings : RuleSettings} {patterns : List Pattern}
    {limit : Nat} : Test.isShorterThan limit ∈ testsOf settings patterns ↔
      settings.maxChars = some limit := by
  rw [mem_testsOf_iff]
  simp

/-- A compiled rule has a test of another kind exactly if it is given a phrase that is not blank, or
a pattern. -/
theorem exists_looksAtText_iff [CharacterNames] {settings : RuleSettings} {patterns : List Pattern}
    (read : settings.patterns.map Pattern.read = patterns.map .ok) :
    (Exists fun test : Test => test ∈ testsOf settings patterns ∧ test.LooksAtText) ↔
      settings.hasFilledTests = true := by
  have same : settings.patterns = [] ↔ patterns = [] := by
    rw [← List.map_eq_nil_iff (f := Pattern.read), read, List.map_eq_nil_iff]
  simp only [mem_testsOf_iff, RuleSettings.hasFilledTests_iff, Ne, same]
  constructor
  · rintro ⟨test, ⟨filled, _⟩ | ⟨filled, _⟩ | ⟨filled, _⟩ | ⟨filled, _⟩ | ⟨filled, _⟩ |
      ⟨limit, _, byLength⟩, looks⟩
    · exact Or.inl filled
    · exact Or.inr (Or.inl filled)
    · exact Or.inr (Or.inr (Or.inl filled))
    · exact Or.inr (Or.inr (Or.inr (Or.inl filled)))
    · exact Or.inr (Or.inr (Or.inr (Or.inr filled)))
    · exact absurd byLength (looks limit)
  · rintro (filled | filled | filled | filled | filled)
    · exact ⟨_, Or.inl ⟨filled, rfl⟩, fun limit => Test.noConfusion⟩
    · exact ⟨_, Or.inr (Or.inl ⟨filled, rfl⟩), fun limit => Test.noConfusion⟩
    · exact ⟨_, Or.inr (Or.inr (Or.inl ⟨filled, rfl⟩)), fun limit => Test.noConfusion⟩
    · exact ⟨_, Or.inr (Or.inr (Or.inr (Or.inl ⟨filled, rfl⟩))), fun limit => Test.noConfusion⟩
    · exact ⟨_, Or.inr (Or.inr (Or.inr (Or.inr (Or.inl ⟨filled, rfl⟩)))),
        fun limit => Test.noConfusion⟩

end Rule

/-! ## What is reported -/

theorem RuleList.shadow?_eq_none_iff (list : RuleList) :
    list.shadow? = none ↔ list.rules.Pairwise fun earlier later =>
      earlier.lengthOnly = true -> later.lengthOnly = true := by
  rcases list with ⟨rules, fallback⟩
  induction rules with
  | nil => exact iff_of_true rfl List.Pairwise.nil
  | cons rule rules inductionHypothesis =>
      rw [List.pairwise_cons]
      cases byLength : rule.lengthOnly with
      | false =>
          have skipped : shadow? ⟨rule :: rules, fallback⟩ = shadow? ⟨rules, fallback⟩ := by
            simp only [shadow?, List.dropWhile_cons, byLength]
            rfl
          rw [skipped, inductionHypothesis]
          exact ⟨fun rest => ⟨fun _ _ impossible => absurd impossible Bool.false_ne_true, rest⟩,
            And.right⟩
      | true =>
          have looked : shadow? ⟨rule :: rules, fallback⟩ =
              (rules.find? fun rule => !rule.lengthOnly).map fun shadowed => ⟨rule, shadowed⟩ := by
            simp only [shadow?, List.dropWhile_cons, byLength]
            rfl
          rw [looked, Option.map_eq_none_iff, List.find?_eq_none]
          constructor
          · intro noneLater
            have later : forall other, other ∈ rules -> other.lengthOnly = true := by
              intro other member
              simpa using noneLater other member
            exact ⟨fun other member _ => later other member,
              List.pairwise_of_forall_mem_list fun _ _ other member _ => later other member⟩
          · rintro ⟨later, _⟩ other member
            simp [later other member rfl]

/-! ## What is hidden -/

/-- At a place stands a rule with a limit of length, and at a later one a rule that looks at
text. -/
structure HidesShort (settings : List RuleSettings) (place later limit : Nat) : Prop where
  before : place < later
  limited : Exists fun here : RuleSettings =>
    settings[place]? = some here ∧ here.maxChars = some limit
  looking : Exists fun there : RuleSettings =>
    settings[later]? = some there ∧ there.hasFilledTests = true

namespace RuleList

variable {settings : List RuleSettings} {fallback : Text} {list : RuleList}

section

variable [CharacterNames]

/-- What is hidden can be read off the tests of the compiled rules. -/
theorem hidesShort_iff_tests (compiled : compile settings fallback = .ok list)
    {place later limit : Nat} :
    HidesShort settings place later limit ↔ place < later ∧
      (Exists fun rule : Rule =>
        list.rules[place]? = some rule ∧ .isShorterThan limit ∈ rule.tests) ∧
      Exists fun rule : Rule => list.rules[later]? = some rule ∧
        Exists fun test : Test => test ∈ rule.tests ∧ test.LooksAtText := by
  constructor
  · rintro ⟨before, ⟨here, found, given⟩, there, foundLater, filled⟩
    rcases getElem?_of_compile compiled found with ⟨rule, listed, made⟩
    rcases getElem?_of_compile compiled foundLater with ⟨ruleLater, listedLater, madeLater⟩
    rcases Rule.compile_eq_ok_iff.mp made with ⟨_, patterns, _, _, parts⟩
    rcases Rule.compile_eq_ok_iff.mp madeLater with ⟨_, patternsLater, read, _, partsLater⟩
    refine ⟨before, ⟨rule, listed, ?_⟩, ruleLater, listedLater, ?_⟩
    · rw [parts]
      exact Rule.isShorterThan_mem_testsOf_iff.mpr given
    · rw [partsLater]
      exact (Rule.exists_looksAtText_iff read).mpr filled
  · rintro ⟨before, ⟨rule, listed, short⟩, ruleLater, listedLater, looks⟩
    rcases compile_of_getElem? compiled listed with ⟨here, found, made⟩
    rcases compile_of_getElem? compiled listedLater with ⟨there, foundLater, madeLater⟩
    rcases Rule.compile_eq_ok_iff.mp made with ⟨_, patterns, _, _, parts⟩
    rcases Rule.compile_eq_ok_iff.mp madeLater with ⟨_, patternsLater, read, _, partsLater⟩
    rw [parts] at short
    rw [partsLater] at looks
    exact ⟨before, ⟨here, found, Rule.isShorterThan_mem_testsOf_iff.mp short⟩, there, foundLater,
      (Rule.exists_looksAtText_iff read).mp looks⟩

/-- A message below the limit of a rule finds this rule or one before it. -/
theorem exists_match?_before (compiled : compile settings fallback = .ok list) {place : Nat}
    {here : RuleSettings} (found : settings[place]? = some here) {limit : Nat}
    (given : here.maxChars = some limit) {message : Text} (filled : isBlankText message = false)
    (short : (normalize message).length < limit) :
    Exists fun rule : Rule => list.match? message = some rule ∧ rule.index <= place := by
  have applies : here.Applies (normalize message) := .short given short
  cases answer : list.match? message with
  | none =>
      rcases (match?_eq_none_iff compiled).mp answer with empty | unfit
      · rw [normalize_eq_nil_iff, filled] at empty
        cases empty
      · exact absurd applies (unfit here (List.mem_of_getElem? found))
  | some rule =>
      rcases (match?_eq_some_iff compiled).mp answer with ⟨_, _, first, _⟩
      refine ⟨rule, rfl, Nat.le_of_not_lt fun behind => ?_⟩
      exact first.before place here behind found applies

/-- Without a report only rules that are given phrases or patterns besides a limit hide others. -/
theorem hasTextTests_of_hidesShort (compiled : compile settings fallback = .ok list)
    (unreported : list.shadow? = none) {place later limit : Nat}
    (hides : HidesShort settings place later limit) {here : RuleSettings}
    (found : settings[place]? = some here) : here.hasTextTests = true := by
  rcases hides with ⟨before, _, there, foundLater, filled⟩
  rcases getElem?_of_compile compiled found with ⟨rule, listed, made⟩
  rcases getElem?_of_compile compiled foundLater with ⟨ruleLater, listedLater, madeLater⟩
  rcases Rule.compile_eq_ok_iff.mp made with ⟨_, _, _, _, parts⟩
  rcases Rule.compile_eq_ok_iff.mp madeLater with ⟨_, _, _, _, partsLater⟩
  rcases List.getElem?_eq_some_iff.mp listed with ⟨inside, same⟩
  rcases List.getElem?_eq_some_iff.mp listedLater with ⟨insideLater, sameLater⟩
  have paired := List.pairwise_iff_getElem.mp ((shadow?_eq_none_iff list).mp unreported) place later
    inside insideLater before
  rw [same, sameLater, parts, partsLater] at paired
  have texts := RuleSettings.hasTextTests_of_withoutBlank filled
  by_contra plain
  simp only [Bool.eq_false_iff.mpr plain, texts] at paired
  exact absurd (paired rfl) Bool.false_ne_true

/-- The report is complete for a list exactly if it is made or no rule that is given a limit and
also phrases or patterns, be they blank, hides a rule.  What is hidden is what the tests of the
compiled rules say, and no message below the limit of such a rule gets past it. -/
theorem shadow_report_is_complete_iff (compiled : compile settings fallback = .ok list) :
    ((list.shadow? = none ->
        forall place later limit : Nat, ¬ HidesShort settings place later limit) ↔
      list.shadow? ≠ none ∨ forall (place later limit : Nat) (here : RuleSettings),
        HidesShort settings place later limit -> settings[place]? = some here ->
          here.hasTextTests = false) ∧
    forall place later limit : Nat,
      (HidesShort settings place later limit ↔ place < later ∧
        (Exists fun rule : Rule =>
          list.rules[place]? = some rule ∧ .isShorterThan limit ∈ rule.tests) ∧
        Exists fun rule : Rule => list.rules[later]? = some rule ∧
          Exists fun test : Test => test ∈ rule.tests ∧ test.LooksAtText) ∧
      (HidesShort settings place later limit -> forall message : Text,
        isBlankText message = false -> (normalize message).length < limit ->
          Exists fun rule : Rule => list.match? message = some rule ∧ rule.index <= place) := by
  refine ⟨?_, ?_⟩
  · constructor
    · intro complete
      by_cases unreported : list.shadow? = none
      · right
        intro place later limit here hides _
        exact absurd hides (complete unreported place later limit)
      · exact Or.inl unreported
    · intro condition unreported place later limit hides
      rcases hides.limited with ⟨here, found, _⟩
      rcases condition with reported | plain
      · exact reported unreported
      · have texts := hasTextTests_of_hidesShort compiled unreported hides found
        rw [plain place later limit here hides found] at texts
        cases texts
  · intro place later limit
    refine ⟨hidesShort_iff_tests compiled, ?_⟩
    intro hides message filled short
    rcases hides.limited with ⟨here, found, given⟩
    exact exists_match?_before compiled found given filled short

end

/-- A rule with a limit and phrases of its own, before a rule for a word. -/
def limitBeforeWord (words : List Text) : List RuleSettings :=
  [{ category := ['s'], words, maxChars := some 40 },
    { category := ['w'], words := [ofString "bug"] }]

theorem hidesShort_limitBeforeWord (words : List Text) :
    HidesShort (limitBeforeWord words) 0 1 40 :=
  ⟨Nat.zero_lt_one, ⟨_, rfl, rfl⟩, _, rfl, rfl⟩

/-- A limit alone before a word is reported, and the word never gets a short message. -/
theorem shadow_report_is_complete_iff_limit_alone :
    Exists fun list : RuleList => compile (limitBeforeWord []) ['c'] = .ok list ∧
      list.shadow? ≠ none ∧
      (list.shadow? = none -> forall place later limit : Nat,
        ¬ HidesShort (limitBeforeWord []) place later limit) ∧
      Exists fun rule : Rule => list.match? (ofString " Bug ") = some rule ∧ rule.index <= 0 := by
  have made : Exists fun list : RuleList => compile (limitBeforeWord []) ['c'] = .ok list ∧
      list.shadow? ≠ none := ⟨_, rfl, Option.isSome_iff_ne_none.mp rfl⟩
  rcases made with ⟨list, compiled, reported⟩
  have law := shadow_report_is_complete_iff compiled
  refine ⟨list, compiled, reported, law.1.mpr (Or.inl reported), ?_⟩
  exact (law.2 0 1 40).2 (hidesShort_limitBeforeWord []) (ofString " Bug ") rfl (by decide)

/-- A blank word besides the limit, which no test is left of, and a word besides it: neither list is
reported, and both keep short messages from the rule behind. -/
theorem shadow_report_misses_limit_with_words :
    (Exists fun list : RuleList => compile (limitBeforeWord [[' ']]) ['c'] = .ok list ∧
      list.shadow? = none ∧ HidesShort (limitBeforeWord [[' ']]) 0 1 40 ∧
      list.classify (ofString "bug") = ['s']) ∧
    Exists fun list : RuleList => compile (limitBeforeWord [['x']]) ['c'] = .ok list ∧
      list.shadow? = none ∧ HidesShort (limitBeforeWord [['x']]) 0 1 40 ∧
      list.classify (ofString "bug") = ['s'] :=
  ⟨⟨_, rfl, rfl, hidesShort_limitBeforeWord [[' ']], rfl⟩,
    ⟨_, rfl, rfl, hidesShort_limitBeforeWord [['x']], rfl⟩⟩

end RuleList
end Switchboard
