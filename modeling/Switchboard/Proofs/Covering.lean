import Switchboard.Proofs.Compiling
import Switchboard.Proofs.Totality
import Switchboard.Routing.Status

namespace Switchboard

open Text

/-!
# Tables that are built cover every message

Building checks three tables one after the other, and each of them trims its names on its own.  What
comes out fits together: every tier has a model, the fallback category and the category of every
rule are names with a tier, and every rule stands at the place that it carries and has a test.

A message comes to its category in two ways.  Classifying asks the list of rules, which keeps a
fallback of its own; deciding asks for the first rule that matches and takes the fallback of the
tables.  Both fallbacks are the same, so the two ways agree on every message, and with all
categories routed no look-up on the way to a model fails.
-/

namespace Tables

/-- Tables whose parts fit together, for the settings that they are built from. -/
structure FitTogether (tables : Tables) (settings : RouterSettings) : Prop
    extends tables.IsClosed where
  models : forall tier, tables.modelOf tier = trim (settings.tiers.get tier) ∧
    IsName (tables.modelOf tier)
  fallbackName : tables.fallback = trim settings.fallback ∧ IsName tables.fallback
  sameFallback : tables.rules.fallback = tables.fallback
  places : forall (place : Nat) (rule : Rule), tables.rules.rules[place]? = some rule ->
    rule.index = place
  categories : tables.rules.rules.map (·.category) = settings.rules.map (trim ·.category)
  named : forall rule, rule ∈ tables.rules.rules -> IsName rule.category
  tested : forall rule, rule ∈ tables.rules.rules -> rule.tests ≠ []

theorem get_trimModels (models : TierModels) (tier : Tier) :
    (trimModels models).get tier = trim (models.get tier) := by
  cases tier <;> rfl

/-- A trimmed model has no name exactly if it was blank. -/
theorem tierWithoutModel?_trimModels (models : TierModels) :
    tierWithoutModel? (trimModels models) =
      Tier.all.find? fun tier => isBlankText (models.get tier) := by
  simp only [tierWithoutModel?, get_trimModels, isEmpty_trim]

theorem tierWithoutModel?_eq_none_iff (models : TierModels) :
    tierWithoutModel? (trimModels models) = none ↔
      forall tier, isBlankText (models.get tier) = false := by
  simp only [tierWithoutModel?_trimModels, List.find?_eq_none, Bool.not_eq_true]
  constructor
  · intro all tier
    apply all
    cases tier <;> simp [Tier.all]
  · intro all tier _
    exact all tier

theorem fitTogether_of_build [CharacterNames] {settings : RouterSettings} {tables : Tables}
    (built : build settings = .ok tables) : tables.FitTogether settings := by
  have closed := isClosed_of_build built
  rcases build_eq_ok built with ⟨rules, compiled, _, _, same⟩
  rcases rulesOf_eq_ok compiled with ⟨models, fallback, _, list⟩
  rw [isEmpty_trim] at fallback
  have member : forall rule, rule ∈ rules.rules -> Exists fun place : Nat =>
      Exists fun here : RuleSettings => Rule.compile place here = .ok rule := by
    intro rule inside
    rcases List.getElem?_of_mem inside with ⟨place, found⟩
    rcases RuleList.compile_of_getElem? list found with ⟨here, _, made⟩
    exact ⟨place, here, made⟩
  refine { closed with
    models := ?_, fallbackName := ?_, sameFallback := ?_, places := ?_, categories := ?_,
    named := ?_, tested := ?_ } <;> subst same
  · intro tier
    have filled := (tierWithoutModel?_eq_none_iff settings.tiers).mp models tier
    rw [modelOf, get_trimModels]
    exact ⟨rfl, isName_trim filled⟩
  · exact ⟨rfl, isName_trim fallback⟩
  · exact (RuleList.compile_eq_ok_iff.mp list).2.1
  · intro place rule found
    rcases RuleList.compile_of_getElem? list found with ⟨here, _, made⟩
    exact (Rule.of_compile made).1
  · exact RuleList.categories_of_compile list
  · intro rule inside
    rcases member rule inside with ⟨place, here, made⟩
    exact (Rule.of_compile made).2.2.1
  · intro rule inside
    rcases member rule inside with ⟨place, here, made⟩
    exact (Rule.of_compile made).2.2.2

/-! ## Look-ups -/

theorem exists_ruleLines {tables : Tables} {rules : List Rule}
    (routed : forall rule, rule ∈ rules -> isRouted tables.routing rule.category = true) :
    Exists fun lines : List String => tables.ruleLines rules = .ok lines := by
  induction rules with
  | nil => exact ⟨[], rfl⟩
  | cons rule rules ih =>
      rcases exists_tierOf (routed rule List.mem_cons_self) with ⟨tier, found⟩
      rcases ih fun other member => routed other (List.mem_cons_of_mem rule member) with
        ⟨lines, rest⟩
      unfold ruleLines ruleLine
      simp only [found, rest]
      exact ⟨_, rfl⟩

theorem IsClosed.exists_status {tables : Tables} (closed : tables.IsClosed) :
    Exists fun text : String => tables.status = .ok text := by
  rcases exists_tierOf closed.fallback with ⟨tier, found⟩
  rcases exists_ruleLines closed.rules with ⟨lines, all⟩
  unfold status
  simp only [found, all]
  exact ⟨_, rfl⟩

/-! ## The two ways to a category -/

theorem classify_eq (tables : Tables) (message : Text) :
    tables.classify message =
      ((tables.rules.match? message).map (·.category)).getD tables.rules.fallback := by
  unfold classify RuleList.classify
  cases tables.rules.match? message <;> rfl

/-- The rules decide by the category that classifying gives. -/
theorem decideByRules_eq {tables : Tables} (same : tables.rules.fallback = tables.fallback)
    {message : Text} {tier : Tier} (found : tables.tierOf (tables.classify message) = .ok tier) :
    tables.decideByRules message =
      .ok ⟨tier, tables.modelOf tier, message,
        .rules ((tables.rules.match? message).map (·.index)) (tables.classify message)⟩ := by
  have category := tables.classify_eq message
  rw [same] at category
  unfold decideByRules
  simp only [← category, found]

/-- The rules are asked exactly if no tag counts. -/
theorem decide_eq_decideByRules_iff {tables : Tables} {message : Text} {decision : Decision}
    (returned : tables.decide message = .ok decision) :
    decision.isPicked = false ↔ tables.counting? message = none := by
  have picked := exists_counting?_iff returned
  constructor
  · intro byRules
    cases search : tables.counting? message with
    | none => rfl
    | some written =>
        rw [picked.mpr ⟨written, search⟩] at byRules
        cases byRules
  · intro absent
    apply Bool.eq_false_iff.mpr
    intro byTag
    rcases picked.mp byTag with ⟨written, found⟩
    rw [absent] at found
    cases found

/-- The parts of tables that were built fit together, their status can be shown, and every message,
also one that is not there, is classified into a category that leads to a tier with a model.  A
decision is not by a tag exactly if no tag counts, and then it goes by that category. -/
theorem built_tables_cover_every_message [CharacterNames] {settings : RouterSettings}
    {tables : Tables}
    (built : build settings = .ok tables) :
    tables.FitTogether settings ∧
    (Exists fun text : String => tables.status = .ok text) ∧
    forall given : Option Text,
      let message := given.getD []
      isRouted tables.routing (tables.classify message) = true ∧
      Exists fun tier : Tier => tables.tierOf (tables.classify message) = .ok tier ∧
        (tables.counting? message = none -> Exists fun decision : Decision =>
          tables.decide message = .ok decision ∧ decision.isPicked = false) ∧
        forall decision : Decision, tables.decide message = .ok decision ->
          decision.isPicked = false ->
            decision.category? = some (tables.classify message) ∧ decision.tier = tier ∧
              decision.model = tables.modelOf tier ∧ decision.text = message := by
  have fit := fitTogether_of_build built
  refine ⟨fit, fit.toIsClosed.exists_status, ?_⟩
  intro given message
  have routed := fit.toIsClosed.category message
  rw [← fit.sameFallback, ← classify_eq] at routed
  rcases exists_tierOf routed with ⟨tier, found⟩
  have byRules := decideByRules_eq fit.sameFallback found
  refine ⟨routed, tier, found, ?_, ?_⟩
  · intro absent
    exact ⟨_, (decide_of_none absent).trans byRules, rfl⟩
  · intro decision returned unpicked
    have absent := (decide_eq_decideByRules_iff returned).mp unpicked
    rw [decide_of_none absent, byRules] at returned
    injection returned with same
    subst same
    exact ⟨rfl, rfl, rfl, rfl⟩

/-- Settings whose names have blanks around them, with a category for one message and another one
for all others. -/
def paddedSettings : RouterSettings :=
  { autoModel := [' ', 'a']
    fallback := ['c', ' ']
    tiers := ⟨[' ', 'l'], ['m', ' '], ['\t', 't']⟩
    routing := [([' ', 'c'], .low), (['d', '\n'], .top)]
    rules := [{ category := [' ', 'd', ' '], exact := [['x']] }] }

/-- What is built from them. -/
def paddedTables : Tables :=
  { rules := ⟨[⟨0, ['d'], [.isOneOf [['x']]], false⟩], ['c']⟩
    routing := [(['c'], .low), (['d'], .top)]
    models := ⟨['l'], ['m'], ['t']⟩
    fallback := ['c']
    autoModel := ['a']
    tags := {} }

/-- The message of the rule goes to the tier of its category, and a missing one to that of the
fallback. -/
theorem built_tables_cover_every_message_padded :
    build paddedSettings = .ok paddedTables ∧ paddedTables.FitTogether paddedSettings ∧
      (Exists fun decision : Decision => paddedTables.decide [' ', 'X'] = .ok decision ∧
        decision.category? = some ['d'] ∧ decision.tier = .top ∧ decision.model = ['t']) ∧
      Exists fun decision : Decision => paddedTables.decide [] = .ok decision ∧
        decision.category? = some ['c'] ∧ decision.tier = .low ∧ decision.model = ['l'] := by
  have built : build paddedSettings = .ok paddedTables := rfl
  have covered := built_tables_cover_every_message built
  have answer : forall (given : Text) (category model : Text) (tier : Tier),
      paddedTables.counting? given = none -> paddedTables.classify given = category ->
      paddedTables.tierOf category = .ok tier -> paddedTables.modelOf tier = model ->
      Exists fun decision : Decision => paddedTables.decide given = .ok decision ∧
        decision.category? = some category ∧ decision.tier = tier ∧ decision.model = model := by
    intro given category model tier absent classified tierOf modelOf
    rcases covered.2.2 (some given) with ⟨_, other, found, returns, agrees⟩
    rcases returns absent with ⟨decision, returned, byRules⟩
    rcases agrees decision returned byRules with ⟨shown, sameTier, sameModel, _⟩
    rw [Option.getD_some, classified] at found shown
    have same : other = tier := Except.ok.inj (found.symm.trans tierOf)
    subst same
    exact ⟨decision, returned, shown, sameTier, sameModel.trans modelOf⟩
  exact ⟨built, covered.1, answer [' ', 'X'] ['d'] ['t'] .top rfl rfl rfl rfl,
    answer [] ['c'] ['l'] .low rfl rfl rfl rfl⟩

end Tables
end Switchboard
