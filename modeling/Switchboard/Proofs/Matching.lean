import Switchboard.Proofs.Bounding
import Switchboard.Proofs.Compiling

namespace Switchboard

open Text

/-!
# The first rule that applies decides

What the settings of a rule say about a normalised message is a list of cases: a whole message, a
beginning, a phrase inside, a bounded phrase, a search pattern or a length.  Compiling drops blank
phrases, merges the phrases of a kind into one test and leaves out the kinds that are not in use;
the compiled rule matches exactly if one of the cases holds.

So a list of rules finds the rule at the first place whose settings apply, and the index of that
rule is the place.  Blank phrases take no part in any case, and rules that are appended stand behind
all others.
-/

namespace RuleSettings

/-- Why the settings of a rule apply to a normalised message. -/
inductive Applies [CharacterNames] (settings : RuleSettings) (message : Text) : Prop where
  | exact {phrase : Text} (listed : phrase ∈ settings.exact) (filled : isBlankText phrase = false)
      (same : message = normalize phrase)
  | beginning {phrase : Text} (listed : phrase ∈ settings.beginnings)
      (filled : isBlankText phrase = false) (starts : lower (trimStart phrase) <+: message)
  | contained {phrase : Text} (listed : phrase ∈ settings.contains)
      (filled : isBlankText phrase = false) (inside : lower phrase <:+: message)
  | bounded {phrase : Text} (listed : phrase ∈ settings.words)
      (filled : isBlankText phrase = false) (inside : IsBoundedIn (lower (trim phrase)) message)
  | pattern {text : Text} {pattern : Pattern} (listed : text ∈ settings.patterns)
      (read : Pattern.read text = .ok pattern) (found : pattern.isFoundIn message = true)
  | short {limit : Nat} (given : settings.maxChars = some limit) (shorter : message.length < limit)

/-- The settings without the phrases that are blank. -/
def withoutBlank (settings : RuleSettings) : RuleSettings :=
  { settings with
    exact := dropBlank settings.exact
    beginnings := dropBlank settings.beginnings
    contains := dropBlank settings.contains
    words := dropBlank settings.words }

end RuleSettings

theorem mem_dropBlank_iff {phrases : List Text} {phrase : Text} :
    phrase ∈ dropBlank phrases ↔ phrase ∈ phrases ∧ isBlankText phrase = false := by
  simp [dropBlank]

theorem dropBlank_dropBlank (phrases : List Text) :
    dropBlank (dropBlank phrases) = dropBlank phrases := by
  simp [dropBlank]

/-! ## Tests -/

/-- A test for phrases holds exactly if one of them that is not blank does what it asks for. -/
theorem any_phraseTest_iff (phrases : List Text) (prepare : Text -> Text)
    (test : List Text -> Test) (message : Text) (hit : Text -> Prop)
    (meaning : forall prepared : List Text, prepared ≠ [] ->
      ((test prepared).holds message = true ↔ Exists fun p : Text => p ∈ prepared ∧ hit p)) :
    ((phraseTest phrases prepare test).any fun test => test.holds message) = true ↔
      Exists fun phrase : Text => phrase ∈ phrases ∧ isBlankText phrase = false ∧
        hit (prepare phrase) := by
  have members : (Exists fun phrase : Text => phrase ∈ phrases ∧ isBlankText phrase = false ∧
      hit (prepare phrase)) ↔
      Exists fun p : Text => p ∈ (dropBlank phrases).map prepare ∧ hit p := by
    simp [mem_dropBlank_iff, and_assoc]
  rw [members, phraseTest]
  by_cases none_left : dropBlank phrases = []
  · simp [none_left]
  · have some_left : (dropBlank phrases).map prepare ≠ [] := by simpa using none_left
    have filled : (dropBlank phrases).isEmpty = false := by simpa using none_left
    simp only [filled, Bool.false_eq_true, if_false, List.any_cons, List.any_nil, Bool.or_false]
    exact meaning _ some_left

section

variable [CharacterNames]

/-- The search patterns of a rule are those that its texts are read as. -/
theorem exists_read_iff {texts : List Text} {patterns : List Pattern}
    (read : texts.map Pattern.read = patterns.map .ok) (hit : Pattern -> Prop) :
    (Exists fun text : Text => text ∈ texts ∧ Exists fun pattern : Pattern =>
      Pattern.read text = .ok pattern ∧ hit pattern) ↔
      Exists fun pattern : Pattern => pattern ∈ patterns ∧ hit pattern := by
  have members : forall pattern : Pattern, pattern ∈ patterns ↔
      Exists fun text : Text => text ∈ texts ∧ Pattern.read text = .ok pattern := by
    intro pattern
    have results := congrArg (fun results => Except.ok pattern ∈ results) read
    simpa using Iff.of_eq results.symm
  simp only [members]
  constructor
  · rintro ⟨text, listed, pattern, same, here⟩
    exact ⟨pattern, ⟨text, listed, same⟩, here⟩
  · rintro ⟨pattern, ⟨text, listed, same⟩, here⟩
    exact ⟨text, listed, pattern, same, here⟩

omit [CharacterNames] in
theorem any_patternTest_iff (patterns : List Pattern) (message : Text) :
    ((if patterns.isEmpty then [] else [Test.matchesOneOf patterns]).any fun test =>
      test.holds message) = true ↔
      Exists fun pattern : Pattern => pattern ∈ patterns ∧ pattern.isFoundIn message = true := by
  cases patterns <;> simp [Test.holds]

omit [CharacterNames] in
theorem any_lengthTest_iff (maxChars : Option Nat) (message : Text) :
    ((maxChars.toList.map Test.isShorterThan).any fun test => test.holds message) = true ↔
      Exists fun limit : Nat => maxChars = some limit ∧ message.length < limit := by
  cases maxChars <;> simp [Test.holds]

/-- The tests of a rule hold exactly if its settings apply. -/
theorem any_testsOf_iff {settings : RuleSettings} {patterns : List Pattern}
    (read : settings.patterns.map Pattern.read = patterns.map .ok) (message : Text) :
    ((Rule.testsOf settings patterns).any fun test => test.holds message) = true ↔
      settings.Applies message := by
  have wholes := any_phraseTest_iff settings.exact normalize .isOneOf message
    (fun p => message = p) (by intro prepared _; simp [Test.holds])
  have beginnings := any_phraseTest_iff settings.beginnings (fun p => lower (trimStart p))
    .startsWithOneOf message (fun p => p <+: message)
    (by intro prepared _; simp [Test.holds, startsWith_iff])
  have insides := any_phraseTest_iff settings.contains lower .containsOneOf message
    (fun p => p <:+: message) (by intro prepared _; simp [Test.holds, includes_iff])
  have bounded := any_phraseTest_iff settings.words (fun p => lower (trim p))
    (fun phrases => .hasBounded (boundedPattern phrases)) message (fun p => IsBoundedIn p message)
    (by intro prepared filled; exact isFoundIn_boundedPattern_iff filled message)
  have found := (any_patternTest_iff patterns message).trans
    (exists_read_iff read fun pattern => pattern.isFoundIn message = true).symm
  have short := any_lengthTest_iff settings.maxChars message
  simp only [Rule.testsOf, List.any_append, Bool.or_eq_true, wholes, beginnings, insides, bounded,
    found, short]
  constructor
  · rintro (((((⟨_, listed, filled, same⟩ | ⟨_, listed, filled, starts⟩) |
      ⟨_, listed, filled, inside⟩) | ⟨_, listed, filled, inside⟩) | ⟨_, listed, _, read, found⟩) |
      ⟨_, given, shorter⟩)
    · exact .exact listed filled same
    · exact .beginning listed filled starts
    · exact .contained listed filled inside
    · exact .bounded listed filled inside
    · exact .pattern listed read found
    · exact .short given shorter
  · intro why
    cases why with
    | exact listed filled same =>
        exact Or.inl (Or.inl (Or.inl (Or.inl (Or.inl ⟨_, listed, filled, same⟩))))
    | beginning listed filled starts =>
        exact Or.inl (Or.inl (Or.inl (Or.inl (Or.inr ⟨_, listed, filled, starts⟩))))
    | contained listed filled inside =>
        exact Or.inl (Or.inl (Or.inl (Or.inr ⟨_, listed, filled, inside⟩)))
    | bounded listed filled inside => exact Or.inl (Or.inl (Or.inr ⟨_, listed, filled, inside⟩))
    | pattern listed read found => exact Or.inl (Or.inr ⟨_, listed, _, read, found⟩)
    | short given shorter => exact Or.inr ⟨_, given, shorter⟩

theorem Rule.isMatch_iff {index : Nat} {settings : RuleSettings} {rule : Rule}
    (compiled : compile index settings = .ok rule) (message : Text) :
    rule.isMatch message = true ↔ settings.Applies message := by
  rcases compile_eq_ok_iff.mp compiled with ⟨_, patterns, read, _, same⟩
  rw [same]
  exact any_testsOf_iff read message

/-! ## The first rule -/

/-- At a place of a list stand settings that apply, and none of those before it do. -/
structure FirstToApply (settings : List RuleSettings) (message : Text) (place : Nat)
    (here : RuleSettings) : Prop where
  found : settings[place]? = some here
  applies : here.Applies message
  before : forall (earlier : Nat) (other : RuleSettings), earlier < place ->
    settings[earlier]? = some other -> ¬ other.Applies message

end

namespace RuleList

variable {settings : List RuleSettings} {fallback : Text} {list : RuleList}

variable [CharacterNames]

/-- The rule that a message finds is the one at the first place whose settings apply. -/
theorem match?_eq_some_iff (compiled : compile settings fallback = .ok list) {message : Text}
    {rule : Rule} :
    list.match? message = some rule ↔ normalize message ≠ [] ∧
      Exists fun here : RuleSettings => FirstToApply settings (normalize message) rule.index here ∧
        Rule.compile rule.index here = .ok rule := by
  unfold match?
  by_cases empty : normalize message = []
  · simp [empty]
  · have filled : (normalize message).isEmpty = false := by simpa using empty
    simp only [filled, Bool.false_eq_true, if_false, List.find?_eq_some_iff_getElem]
    constructor
    · rintro ⟨matched, place, inside, same, before⟩
      have listed : list.rules[place]? = some rule := by
        rw [List.getElem?_eq_getElem inside, same]
      rcases compile_of_getElem? compiled listed with ⟨here, found, made⟩
      -- The rule carries the place at which it stands.
      have index : rule.index = place := (Rule.of_compile made).1
      subst index
      refine ⟨empty, here, ⟨found, (Rule.isMatch_iff made _).mp matched, ?_⟩, made⟩
      intro earlier other least there applies
      rcases getElem?_of_compile compiled there with ⟨first, listedFirst, madeFirst⟩
      have unmatched := before earlier least
      have matchedFirst := (Rule.isMatch_iff madeFirst _).mpr applies
      rcases List.getElem?_eq_some_iff.mp listedFirst with ⟨_, sameFirst⟩
      rw [sameFirst, matchedFirst] at unmatched
      cases unmatched
    · rintro ⟨_, here, first, made⟩
      rcases getElem?_of_compile compiled first.found with ⟨other, listed, madeOther⟩
      have same : other = rule := Except.ok.inj (madeOther.symm.trans made)
      subst same
      rcases List.getElem?_eq_some_iff.mp listed with ⟨inside, same⟩
      refine ⟨(Rule.isMatch_iff made _).mpr first.applies, other.index, inside, same, ?_⟩
      intro earlier least
      have listedFirst := List.getElem?_eq_getElem (Nat.lt_trans least inside)
      rcases compile_of_getElem? compiled listedFirst with ⟨early, there, madeFirst⟩
      have unfit := first.before earlier early least there
      rw [← Rule.isMatch_iff madeFirst, Bool.not_eq_true] at unfit
      rw [unfit]
      rfl

theorem match?_eq_none_iff (compiled : compile settings fallback = .ok list) {message : Text} :
    list.match? message = none ↔ normalize message = [] ∨
      forall here : RuleSettings, here ∈ settings -> ¬ here.Applies (normalize message) := by
  unfold match?
  by_cases empty : normalize message = []
  · simp [empty]
  · have filled : (normalize message).isEmpty = false := by simpa using empty
    simp only [filled, Bool.false_eq_true, if_false, List.find?_eq_none, empty, false_or]
    constructor
    · intro unmatched here member applies
      rcases List.getElem?_of_mem member with ⟨place, found⟩
      rcases getElem?_of_compile compiled found with ⟨rule, listed, made⟩
      exact unmatched rule (List.mem_of_getElem? listed) ((Rule.isMatch_iff made _).mpr applies)
    · intro unfit rule member matched
      rcases List.getElem?_of_mem member with ⟨place, listed⟩
      rcases compile_of_getElem? compiled listed with ⟨here, found, made⟩
      exact unfit here (List.mem_of_getElem? found) ((Rule.isMatch_iff made _).mp matched)

/-- The settings that apply first find their rule. -/
theorem exists_match? (compiled : compile settings fallback = .ok list) {message : Text}
    (filled : normalize message ≠ []) {place : Nat} {here : RuleSettings}
    (first : FirstToApply settings (normalize message) place here) :
    Exists fun rule : Rule => list.match? message = some rule ∧
      rule.index = place ∧ rule.category = trim here.category := by
  rcases getElem?_of_compile compiled first.found with ⟨rule, _, made⟩
  have parts := Rule.of_compile made
  rw [← parts.1] at first made
  exact ⟨rule, (match?_eq_some_iff compiled).mpr ⟨filled, here, first, made⟩, parts.1, parts.2.1⟩

/-- The place and the category of the rule that a message finds. -/
def answer? (list : RuleList) (message : Text) : Option (Nat × Text) :=
  (list.match? message).map fun rule => (rule.index, rule.category)

theorem answer?_eq_some_iff (compiled : compile settings fallback = .ok list) {message : Text}
    {place : Nat} {category : Text} :
    list.answer? message = some (place, category) ↔ normalize message ≠ [] ∧
      Exists fun here : RuleSettings => FirstToApply settings (normalize message) place here ∧
        trim here.category = category := by
  unfold answer?
  rw [Option.map_eq_some_iff]
  constructor
  · rintro ⟨rule, found, same⟩
    rcases (match?_eq_some_iff compiled).mp found with ⟨filled, here, first, made⟩
    have parts := Rule.of_compile made
    injection same with index name
    subst index
    exact ⟨filled, here, first, parts.2.1.symm.trans name⟩
  · rintro ⟨filled, here, first, name⟩
    rcases exists_match? compiled filled first with ⟨rule, found, index, category⟩
    exact ⟨rule, found, by rw [index, category, name]⟩

end RuleList

/-! ## Blank phrases -/

namespace RuleSettings

theorem applies_withoutBlank_iff [CharacterNames] {settings : RuleSettings} {message : Text} :
    settings.withoutBlank.Applies message ↔ settings.Applies message := by
  constructor
  · intro why
    cases why with
    | exact listed filled same => exact .exact (mem_dropBlank_iff.mp listed).1 filled same
    | beginning listed filled starts =>
        exact .beginning (mem_dropBlank_iff.mp listed).1 filled starts
    | contained listed filled inside =>
        exact .contained (mem_dropBlank_iff.mp listed).1 filled inside
    | bounded listed filled inside => exact .bounded (mem_dropBlank_iff.mp listed).1 filled inside
    | pattern listed read found => exact .pattern listed read found
    | short given shorter => exact .short given shorter
  · intro why
    cases why with
    | exact listed filled same =>
        exact .exact (mem_dropBlank_iff.mpr ⟨listed, filled⟩) filled same
    | beginning listed filled starts =>
        exact .beginning (mem_dropBlank_iff.mpr ⟨listed, filled⟩) filled starts
    | contained listed filled inside =>
        exact .contained (mem_dropBlank_iff.mpr ⟨listed, filled⟩) filled inside
    | bounded listed filled inside =>
        exact .bounded (mem_dropBlank_iff.mpr ⟨listed, filled⟩) filled inside
    | pattern listed read found => exact .pattern listed read found
    | short given shorter => exact .short given shorter

theorem hasTextTests_of_withoutBlank {settings : RuleSettings}
    (texts : settings.withoutBlank.hasTextTests = true) : settings.hasTextTests = true := by
  have dropped : forall phrases : List Text, phrases = [] -> dropBlank phrases = [] := by
    intro phrases empty
    rw [empty]
    rfl
  unfold hasTextTests withoutBlank at *
  simp only [Bool.not_eq_true', Bool.and_eq_false_iff, List.isEmpty_eq_false_iff] at *
  rcases texts with (((exact | beginnings) | contains) | words) | patterns
  · exact Or.inl (Or.inl (Or.inl (Or.inl (mt (dropped _) exact))))
  · exact Or.inl (Or.inl (Or.inl (Or.inr (mt (dropped _) beginnings))))
  · exact Or.inl (Or.inl (Or.inr (mt (dropped _) contains)))
  · exact Or.inl (Or.inr (mt (dropped _) words))
  · exact Or.inr patterns

end RuleSettings

/-- Without its blank phrases a rule has the same tests; at most it goes by length where it did
not. -/
theorem Rule.compile_withoutBlank [CharacterNames] {index : Nat} {settings : RuleSettings}
    {rule : Rule}
    (compiled : compile index settings = .ok rule) :
    compile index settings.withoutBlank =
      .ok { rule with lengthOnly := !settings.withoutBlank.hasTextTests } := by
  rcases compile_eq_ok_iff.mp compiled with ⟨named, patterns, read, tested, same⟩
  have tests : testsOf settings.withoutBlank patterns = testsOf settings patterns := by
    simp only [testsOf, RuleSettings.withoutBlank, phraseTest, dropBlank_dropBlank]
  refine compile_eq_ok_iff.mpr ⟨named, patterns, read, tests ▸ tested, ?_⟩
  rw [same, tests]
  rfl

namespace FirstToApply

variable {settings others : List RuleSettings} {message : Text} {place : Nat} {here : RuleSettings}

variable [CharacterNames]

/-- Which settings apply first does not depend on blank phrases. -/
theorem of_same (first : FirstToApply settings message place here)
    (same : others.map (·.withoutBlank) = settings.map (·.withoutBlank)) :
    Exists fun there : RuleSettings => FirstToApply others message place there ∧
      there.category = here.category := by
  have everywhere : forall place : Nat, others[place]?.map (·.withoutBlank) =
      settings[place]?.map (·.withoutBlank) := by
    intro place
    rw [← List.getElem?_map, ← List.getElem?_map, same]
  have counterpart := everywhere place
  rw [first.found] at counterpart
  rcases Option.map_eq_some_iff.mp counterpart with ⟨there, found, alike⟩
  refine ⟨there, ⟨found, ?_, ?_⟩, (congrArg (·.category) alike :)⟩
  · rw [← RuleSettings.applies_withoutBlank_iff, alike, RuleSettings.applies_withoutBlank_iff]
    exact first.applies
  · intro earlier other least listed applies
    have original := everywhere earlier
    rw [listed] at original
    rcases Option.map_eq_some_iff.mp original.symm with ⟨before, known, alike⟩
    apply first.before earlier before least known
    rw [← RuleSettings.applies_withoutBlank_iff, alike, RuleSettings.applies_withoutBlank_iff]
    exact applies

theorem append (first : FirstToApply settings message place here) (more : List RuleSettings) :
    FirstToApply (settings ++ more) message place here := by
  have inside : place < settings.length := (List.getElem?_eq_some_iff.mp first.found).1
  refine ⟨?_, first.applies, ?_⟩
  · rw [List.getElem?_append_left inside]
    exact first.found
  · intro earlier other least listed
    rw [List.getElem?_append_left (Nat.lt_trans least inside)] at listed
    exact first.before earlier other least listed

end FirstToApply

namespace RuleList

variable {settings : List RuleSettings} {fallback : Text} {list : RuleList}

section

variable [CharacterNames]

/-- A list that is accepted is accepted without its blank phrases. -/
theorem exists_compile_withoutBlank (compiled : compile settings fallback = .ok list) :
    Exists fun cleaned : RuleList =>
      compile (settings.map (·.withoutBlank)) fallback = .ok cleaned := by
  have each : forall (place : Nat) (here : RuleSettings),
      (settings.map (·.withoutBlank))[place]? = some here ->
        Exists fun rule : Rule => Rule.compile place here = .ok rule ∧
          (rule.category == fallback && !rule.lengthOnly) = false := by
    intro place here found
    rw [List.getElem?_map] at found
    rcases Option.map_eq_some_iff.mp found with ⟨original, there, cleaned⟩
    rcases getElem?_of_compile compiled there with ⟨rule, listed, made⟩
    have passed := List.find?_eq_none.mp (compile_eq_ok_iff.mp compiled).2.2 rule
      (List.mem_of_getElem? listed)
    subst cleaned
    refine ⟨_, Rule.compile_withoutBlank made, ?_⟩
    rcases Rule.compile_eq_ok_iff.mp made with ⟨_, _, _, _, parts⟩
    rw [parts] at passed ⊢
    -- Dropping phrases can only turn a rule that looks at words into one that goes by length.
    cases texts : original.withoutBlank.hasTextTests with
    | false => simp
    | true => simpa [RuleSettings.hasTextTests_of_withoutBlank texts] using passed
  rcases Rule.exists_compileFrom fun place here found =>
    (each place here found).imp fun _ both => both.1 with ⟨rules, made⟩
  refine ⟨⟨rules, fallback⟩, compile_eq_ok_iff.mpr ⟨made, rfl, ?_⟩⟩
  apply List.find?_eq_none.mpr
  intro rule member
  rcases List.getElem?_of_mem member with ⟨place, listed⟩
  have origin := Rule.compileFrom_zero_eq_ok_iff.mp made place
  rw [listed] at origin
  rcases Option.map_eq_some_iff.mp origin with ⟨here, found, cleaned⟩
  rcases each place here found with ⟨other, compiledHere, passed⟩
  have same : other = rule := Except.ok.inj (compiledHere.symm.trans cleaned)
  rw [← same, passed]
  exact Bool.false_ne_true

/-- Lists that differ in blank phrases only give the same answers. -/
theorem answer?_eq_of_same (compiled : compile settings fallback = .ok list)
    {others : List RuleSettings} {otherFallback : Text} {otherList : RuleList}
    (same : others.map (·.withoutBlank) = settings.map (·.withoutBlank))
    (compiledOthers : compile others otherFallback = .ok otherList) (message : Text) :
    otherList.answer? message = list.answer? message := by
  apply Option.ext
  rintro ⟨place, category⟩
  rw [answer?_eq_some_iff compiled, answer?_eq_some_iff compiledOthers]
  apply and_congr_right
  intro _
  constructor
  · rintro ⟨here, first, name⟩
    rcases first.of_same same.symm with ⟨there, alsoFirst, alike⟩
    exact ⟨there, alsoFirst, alike ▸ name⟩
  · rintro ⟨here, first, name⟩
    rcases first.of_same same with ⟨there, alsoFirst, alike⟩
    exact ⟨there, alsoFirst, alike ▸ name⟩

/-- Rules that are appended are not asked for messages that find a rule before them. -/
theorem match?_append (compiled : compile settings fallback = .ok list) {more : List RuleSettings}
    {otherFallback : Text} {longer : RuleList}
    (compiledLonger : compile (settings ++ more) otherFallback = .ok longer) {message : Text}
    {rule : Rule} (found : list.match? message = some rule) :
    longer.match? message = some rule := by
  rcases (match?_eq_some_iff compiled).mp found with ⟨filled, here, first, made⟩
  exact (match?_eq_some_iff compiledLonger).mpr ⟨filled, here, first.append more, made⟩

/-- An accepted list finds no rule exactly if the message is blank or no settings apply to it, and
otherwise it finds the rule at the first place whose settings apply.  Phrases that are blank make no
difference to the answer, and neither do rules that are appended to a list that has one. -/
theorem match?_is_first_that_applies (compiled : compile settings fallback = .ok list)
    (given : Option Text) :
    let message := given.getD []
    (list.match? message = none ↔ normalize message = [] ∨
      forall here : RuleSettings, here ∈ settings -> ¬ here.Applies (normalize message)) ∧
    (forall rule : Rule, list.match? message = some rule ↔ normalize message ≠ [] ∧
      Exists fun here : RuleSettings =>
        FirstToApply settings (normalize message) rule.index here ∧
          rule.category = trim here.category ∧ list.rules[rule.index]? = some rule) ∧
    (Exists fun cleaned : RuleList =>
      compile (settings.map (·.withoutBlank)) fallback = .ok cleaned) ∧
    (forall (others : List RuleSettings) (otherFallback : Text) (otherList : RuleList),
      others.map (·.withoutBlank) = settings.map (·.withoutBlank) ->
        compile others otherFallback = .ok otherList ->
          otherList.answer? message = list.answer? message) ∧
    forall (more : List RuleSettings) (otherFallback : Text) (longer : RuleList),
      compile (settings ++ more) otherFallback = .ok longer ->
        forall rule : Rule, list.match? message = some rule ->
          longer.match? message = some rule := by
  intro message
  refine ⟨match?_eq_none_iff compiled, ?_, exists_compile_withoutBlank compiled, ?_, ?_⟩
  · intro rule
    rw [match?_eq_some_iff compiled]
    apply and_congr_right
    intro _
    apply exists_congr
    intro here
    apply and_congr_right
    intro first
    rcases getElem?_of_compile compiled first.found with ⟨other, listed, made⟩
    constructor
    · intro madeRule
      have same : other = rule := Except.ok.inj (made.symm.trans madeRule)
      exact ⟨(Rule.of_compile madeRule).2.1, same ▸ listed⟩
    · rintro ⟨_, listedRule⟩
      have same : other = rule := Option.some.inj (listed.symm.trans listedRule)
      rw [← same]
      exact same ▸ made
  · intro others otherFallback otherList same compiledOthers
    exact answer?_eq_of_same compiled same compiledOthers message
  · intro more otherFallback longer compiledLonger rule found
    exact match?_append compiled compiledLonger found

end

/-- Two rules for a greeting, with a blank beginning before the first of them. -/
def greetings : List RuleSettings :=
  [{ category := ['d'], beginnings := [[' ']], maxChars := some 2 },
    { category := [' ', 'e'], exact := [['\t'], ['H', 'i', ' ']] },
    { category := ['g'], contains := [['I']] }]

/-- A blank beginning is no beginning of the greeting, so that the second rule is the first one that
applies, also if another list is appended. -/
theorem match?_is_first_that_applies_greeting :
    Exists fun list : RuleList => compile greetings ['c'] = .ok list ∧
      list.answer? [' ', 'H', 'I'] = some (1, ['e']) ∧
      (Exists fun here : RuleSettings =>
        FirstToApply greetings ['h', 'i'] 1 here ∧ trim here.category = ['e']) ∧
      Exists fun longer : RuleList => compile (greetings ++ greetings) ['c'] = .ok longer ∧
        longer.match? [' ', 'H', 'I'] = list.match? [' ', 'H', 'I'] := by
  have compiled : compile greetings ['c'] = .ok _ := rfl
  have law := match?_is_first_that_applies compiled (some [' ', 'H', 'I'])
  refine ⟨_, compiled, rfl, ?_, _, rfl, law.2.2.2.2 greetings ['c'] _ rfl _ rfl⟩
  rcases ((law.2.1 _).mp rfl).2 with ⟨here, first, category, _⟩
  exact ⟨here, first, category.symm⟩

end RuleList

end Switchboard
