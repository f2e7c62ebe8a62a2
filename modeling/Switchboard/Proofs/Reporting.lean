import Switchboard.Proofs.Shadowing
import Switchboard.Routing.Building

namespace Switchboard

open Text

/-!
# What the report of hidden rules says

The report is made at most once for a list, exactly if some rule by length stands before a rule of
another kind, and it names the first rule by length and the first rule of another kind behind it.

What it says is true.  A rule by length is given no phrase and no pattern, so the only test it can
have is the one of its limit.  A message below this limit stops at this rule or before it, and no
rule behind it is reached, whether the report names that rule or not.
-/

/-! ## Rules by length -/

namespace Rule

variable {index : Nat} {settings : RuleSettings} {rule : Rule}

variable [CharacterNames]

theorem lengthOnly_of_compile (compiled : compile index settings = .ok rule) :
    rule.lengthOnly = !settings.hasTextTests := by
  rcases compile_eq_ok_iff.mp compiled with ⟨_, patterns, _, _, parts⟩
  rw [parts]

/-- A rule by length has the test of its limit and no other one. -/
theorem exists_limit_of_lengthOnly (compiled : compile index settings = .ok rule)
    (byLength : rule.lengthOnly = true) :
    Exists fun limit : Nat => settings.maxChars = some limit ∧
      rule.tests = [.isShorterThan limit] := by
  rw [lengthOnly_of_compile compiled, Bool.not_eq_true'] at byLength
  rcases RuleSettings.hasTextTests_eq_false_iff.mp byLength with
    ⟨noExact, noBeginning, noContained, noWord, noPattern⟩
  rcases compile_eq_ok_iff.mp compiled with ⟨_, patterns, read, tested, parts⟩
  rw [noPattern, List.map_nil, eq_comm, List.map_eq_nil_iff] at read
  have tests : rule.tests = settings.maxChars.toList.map .isShorterThan := by
    rw [parts, testsOf, noExact, noBeginning, noContained, noWord, read]
    rfl
  -- Without a limit no test would be left, and the rule would have been refused.
  cases given : settings.maxChars with
  | none =>
      rw [parts, given] at tests
      exact absurd tests tested
  | some limit =>
      rw [given] at tests
      exact ⟨limit, rfl, tests⟩

end Rule

/-! ## The pair that is named -/

/-- At a place stands the first rule by length of a list, and at a later one the first rule of
another kind behind it. -/
structure FirstHidden (settings : List RuleSettings) (place later : Nat) : Prop where
  before : place < later
  byLength : Exists fun here : RuleSettings =>
    settings[place]? = some here ∧ here.hasTextTests = false
  byText : Exists fun there : RuleSettings =>
    settings[later]? = some there ∧ there.hasTextTests = true
  first : forall (earlier : Nat) (other : RuleSettings), earlier < place ->
    settings[earlier]? = some other -> other.hasTextTests = true
  next : forall (between : Nat) (other : RuleSettings), place < between -> between < later ->
    settings[between]? = some other -> other.hasTextTests = false

namespace RuleList

/-- The rules around a pair that is reported. -/
theorem split_of_shadow? {list : RuleList} {shadow : Shadow}
    (reported : list.shadow? = some shadow) :
    Exists fun before : List Rule => Exists fun between : List Rule =>
      Exists fun after : List Rule =>
        list.rules = before ++ shadow.shadowing :: (between ++ shadow.shadowed :: after) ∧
          (forall rule, rule ∈ before -> rule.lengthOnly = false) ∧
          shadow.shadowing.lengthOnly = true ∧
          (forall rule, rule ∈ between -> rule.lengthOnly = true) ∧
          shadow.shadowed.lengthOnly = false := by
  have parts : (list.rules.takeWhile fun rule => !rule.lengthOnly) ++
      (list.rules.dropWhile fun rule => !rule.lengthOnly) = list.rules :=
    List.takeWhile_append_dropWhile
  have skipped : forall rule, rule ∈ list.rules.takeWhile (fun rule => !rule.lengthOnly) ->
      rule.lengthOnly = false := by
    intro rule member
    simpa using List.mem_takeWhile_imp member
  rw [shadow?] at reported
  split at reported
  · cases reported
  · rename_i shadowing rest left
    rcases Option.map_eq_some_iff.mp reported with ⟨shadowed, found, same⟩
    rcases List.find?_eq_some_iff_append.mp found with ⟨byText, between, after, behind, byLength⟩
    have stops := List.head?_dropWhile_not (fun rule : Rule => !rule.lengthOnly) list.rules
    rw [left] at parts stops
    subst same
    refine ⟨_, between, after, ?_, skipped, ?_, ?_, ?_⟩
    · rw [← behind]
      exact parts.symm
    · simpa using stops
    · intro rule member
      simpa using byLength rule member
    · simpa using byText

variable {settings : List RuleSettings} {fallback : Text} {list : RuleList}

section

variable [CharacterNames]

theorem index_of_getElem? (compiled : compile settings fallback = .ok list) {place : Nat}
    {rule : Rule} (listed : list.rules[place]? = some rule) : rule.index = place := by
  rcases compile_of_getElem? compiled listed with ⟨_, _, made⟩
  exact (Rule.of_compile made).1

/-- Whether the settings at a place look at text shows at the rule that stands there. -/
theorem exists_lengthOnly_of_getElem? (compiled : compile settings fallback = .ok list)
    {place : Nat} {here : RuleSettings} (found : settings[place]? = some here) :
    Exists fun rule : Rule => list.rules[place]? = some rule ∧
      rule.lengthOnly = !here.hasTextTests := by
  rcases getElem?_of_compile compiled found with ⟨rule, listed, made⟩
  exact ⟨rule, listed, Rule.lengthOnly_of_compile made⟩

/-- The pair that is reported stands at the places that its rules carry, and it is the first one. -/
theorem firstHidden_of_shadow? (compiled : compile settings fallback = .ok list)
    {shadow : Shadow} (reported : list.shadow? = some shadow) :
    list.rules[shadow.shadowing.index]? = some shadow.shadowing ∧
      list.rules[shadow.shadowed.index]? = some shadow.shadowed ∧
      FirstHidden settings shadow.shadowing.index shadow.shadowed.index := by
  rcases split_of_shadow? reported with
    ⟨before, between, after, parts, skipped, byLength, passed, byText⟩
  have here : list.rules[before.length]? = some shadow.shadowing := by
    rw [parts, List.getElem?_append_right (Nat.le_refl _), Nat.sub_self]
    rfl
  have there : list.rules[before.length + 1 + between.length]? = some shadow.shadowed := by
    rw [parts, List.getElem?_append_right (by omega)]
    have shifted : before.length + 1 + between.length - before.length = between.length + 1 := by
      omega
    rw [shifted, List.getElem?_cons_succ, List.getElem?_append_right (Nat.le_refl _), Nat.sub_self]
    rfl
  rw [index_of_getElem? compiled here, index_of_getElem? compiled there]
  rcases compile_of_getElem? compiled here with ⟨settingsHere, foundHere, madeHere⟩
  rcases compile_of_getElem? compiled there with ⟨settingsThere, foundThere, madeThere⟩
  rw [Rule.lengthOnly_of_compile madeHere, Bool.not_eq_true'] at byLength
  rw [Rule.lengthOnly_of_compile madeThere, Bool.not_eq_false'] at byText
  refine ⟨here, there, by omega, ⟨_, foundHere, byLength⟩, ⟨_, foundThere, byText⟩, ?_, ?_⟩
  · intro earlier other least found
    rcases exists_lengthOnly_of_getElem? compiled found with ⟨rule, listed, same⟩
    rw [parts, List.getElem?_append_left least] at listed
    rw [skipped rule (List.mem_of_getElem? listed)] at same
    simpa using same.symm
  · intro middle other behind least found
    rcases exists_lengthOnly_of_getElem? compiled found with ⟨rule, listed, same⟩
    rcases Nat.exists_eq_add_of_lt behind with ⟨offset, position⟩
    have shifted : middle - before.length = offset + 1 := by omega
    rw [parts, List.getElem?_append_right (Nat.le_of_lt behind), shifted, List.getElem?_cons_succ,
      List.getElem?_append_left (by omega)] at listed
    rw [passed rule (List.mem_of_getElem? listed)] at same
    simpa using same.symm

/-- There is a report exactly if some rule by length stands before a rule of another kind. -/
theorem shadow?_ne_none_iff (compiled : compile settings fallback = .ok list) :
    list.shadow? ≠ none ↔ Exists fun place : Nat => Exists fun later : Nat => place < later ∧
      (Exists fun here : RuleSettings =>
        settings[place]? = some here ∧ here.hasTextTests = false) ∧
      Exists fun there : RuleSettings =>
        settings[later]? = some there ∧ there.hasTextTests = true := by
  constructor
  · intro reported
    rcases Option.ne_none_iff_exists'.mp reported with ⟨shadow, found⟩
    have hidden := (firstHidden_of_shadow? compiled found).2.2
    exact ⟨_, _, hidden.before, hidden.byLength, hidden.byText⟩
  · rintro ⟨place, later, before, ⟨here, found, byLength⟩, there, foundLater, byText⟩ unreported
    rcases exists_lengthOnly_of_getElem? compiled found with ⟨rule, listed, kind⟩
    rcases exists_lengthOnly_of_getElem? compiled foundLater with ⟨ruleLater, listedLater, kindLater⟩
    rcases List.getElem?_eq_some_iff.mp listed with ⟨inside, same⟩
    rcases List.getElem?_eq_some_iff.mp listedLater with ⟨insideLater, sameLater⟩
    have paired := List.pairwise_iff_getElem.mp ((shadow?_eq_none_iff list).mp unreported) place
      later inside insideLater before
    rw [same, sameLater, kind, kindLater, byLength, byText] at paired
    exact absurd (paired rfl) Bool.false_ne_true

/-- The report is made at most once, exactly if a rule by length stands before a rule of another
kind, and it names the first pair of such rules.  The rule by length that it names has its limit as
its only test, and a message below the limit finds this rule or one before it and none behind it. -/
theorem shadow_report_names_first_pair (compiled : compile settings fallback = .ok list) :
    (forall router : RouterSettings, Tables.rulesOf router = .ok list ->
      (Tables.buildNotices router).length <= 1 ∧ forall shadow : Shadow,
        .rulesHidden shadow ∈ Tables.buildNotices router ↔ list.shadow? = some shadow) ∧
    (list.shadow? ≠ none ↔ Exists fun place : Nat => Exists fun later : Nat => place < later ∧
      (Exists fun here : RuleSettings =>
        settings[place]? = some here ∧ here.hasTextTests = false) ∧
      Exists fun there : RuleSettings =>
        settings[later]? = some there ∧ there.hasTextTests = true) ∧
    forall shadow : Shadow, list.shadow? = some shadow ->
      let place := shadow.shadowing.index
      let later := shadow.shadowed.index
      list.rules[place]? = some shadow.shadowing ∧ list.rules[later]? = some shadow.shadowed ∧
      FirstHidden settings place later ∧
      Exists fun limit : Nat => settings[place]?.bind (·.maxChars) = some limit ∧
        shadow.shadowing.tests = [.isShorterThan limit] ∧
        forall message : Text, normalize message ≠ [] -> (normalize message).length < limit ->
          (Exists fun rule : Rule => list.match? message = some rule ∧ rule.index <= place) ∧
          forall behind : Nat, place < behind -> list.match? message ≠ list.rules[behind]? := by
  refine ⟨?_, shadow?_ne_none_iff compiled, ?_⟩
  · intro router accepted
    have notices : Tables.buildNotices router = list.shadow?.toList.map .rulesHidden := by
      rw [Tables.buildNotices, accepted]
    rw [notices]
    cases list.shadow? with
    | none => simp
    | some reported => simp [eq_comm]
  · intro shadow reported place later
    rcases firstHidden_of_shadow? compiled reported with ⟨listed, listedLater, hidden⟩
    rcases split_of_shadow? reported with ⟨_, _, _, _, _, byLength, _, _⟩
    rcases compile_of_getElem? compiled listed with ⟨here, found, made⟩
    rcases Rule.exists_limit_of_lengthOnly made byLength with ⟨limit, given, tests⟩
    refine ⟨listed, listedLater, hidden, limit, ?_, tests, ?_⟩
    · rw [found]
      exact given
    intro message nonempty short
    have filled : isBlankText message = false := by
      rwa [Ne, normalize_eq_nil_iff, Bool.not_eq_true] at nonempty
    rcases exists_match?_before compiled found given filled short with ⟨rule, matched, reached⟩
    refine ⟨⟨rule, matched, reached⟩, ?_⟩
    intro behind further same
    rw [matched] at same
    have index := index_of_getElem? compiled same.symm
    exact absurd (index ▸ reached) (Nat.not_le_of_lt further)

end

/-- Two rules by length, with a rule for a word before, between and behind them. -/
def lengthsAmongWords : List RuleSettings :=
  [{ category := ['w'], words := [['x']] }, { category := ['s'], maxChars := some 6 },
    { category := ['t'], maxChars := some 9 }, { category := ['w'], words := [ofString "bug"] },
    { category := ['w'], words := [ofString "code"] }]

/-- The second rule and the fourth one are named, and a short message with the word of the fourth
rule finds none behind the second. -/
theorem shadow_report_names_first_pair_among_words :
    Exists fun list : RuleList => Exists fun shadow : Shadow =>
      compile lengthsAmongWords ['c'] = .ok list ∧ list.shadow? = some shadow ∧
        shadow.shadowing.index = 1 ∧ shadow.shadowed.index = 3 ∧
        FirstHidden lengthsAmongWords 1 3 ∧
        normalize (ofString " A bug ") ≠ [] ∧ (normalize (ofString " A bug ")).length < 6 ∧
        Exists fun rule : Rule => list.match? (ofString " A bug ") = some rule ∧ rule.index <= 1 := by
  have made : Exists fun list : RuleList => Exists fun shadow : Shadow =>
      compile lengthsAmongWords ['c'] = .ok list ∧ list.shadow? = some shadow ∧
        shadow.shadowing = ⟨1, ['s'], [.isShorterThan 6], true⟩ ∧ shadow.shadowed.index = 3 :=
    ⟨_, _, rfl, rfl, rfl, rfl⟩
  rcases made with ⟨list, shadow, compiled, reported, first, second⟩
  rcases (shadow_report_names_first_pair compiled).2.2 shadow reported with
    ⟨_, _, hidden, limit, _, tests, stopped⟩
  have nonempty : normalize (ofString " A bug ") ≠ [] := by decide
  have short : (normalize (ofString " A bug ")).length < 6 := by decide
  rw [first] at hidden tests stopped
  rw [second] at hidden
  injection (List.cons.inj tests).1 with six
  have answer := (stopped (ofString " A bug ") nonempty (six ▸ short)).1
  exact ⟨list, shadow, compiled, reported, by rw [first], second, hidden, nonempty, short, answer⟩

end RuleList
end Switchboard
