import Switchboard.Proofs.Covering
import Switchboard.Routing.Building
import Switchboard.Routing.Route

namespace Switchboard

open Text

/-!
# Blanks around names do not show

Five kinds of names stand in the settings of a router: the categories of rules, the fallback
category, the models of the tiers, the name that asks for routing and the names of the routing
table.  They are compared with each other and with what comes from outside: a category with the
routing table and with the fallback, the fallback with the routing table, the model of a request
with the name that asks for routing.  Each kind is trimmed where it is read, so a comparison that
saw one name trimmed and the other one not would go wrong on settings with blanks and on no others.

Settings with blanks put around any of these names are accepted exactly if the settings without them
are, and what is built from them is the same: the same tables, or the same fault with the same place
and the same wording.  Names of the routing table that are told apart by blanks alone meet in both.
-/

/-- A text with blanks put around it. -/
def Text.IsSpaced (text spaced : Text) : Prop :=
  Exists fun before : Text => Exists fun after : Text =>
    isBlankText before = true ∧ isBlankText after = true ∧ spaced = before ++ text ++ after

/-- The settings of a rule with blanks put around its category. -/
structure RuleSettings.IsSpaced (settings spaced : RuleSettings) : Prop where
  category : Text.IsSpaced settings.category spaced.category
  others : spaced = { settings with category := spaced.category }

/-- A routing table with blanks put around its names, in the same order and with the same tiers. -/
def RoutingTable.IsSpaced (routing spaced : RoutingTable) : Prop :=
  List.Forall₂ (fun entry other => Text.IsSpaced entry.1 other.1 ∧ other.2 = entry.2) routing spaced

/-- The settings of a router with blanks put around names. -/
structure RouterSettings.IsSpaced (settings spaced : RouterSettings) : Prop where
  autoModel : Text.IsSpaced settings.autoModel spaced.autoModel
  fallback : Text.IsSpaced settings.fallback spaced.fallback
  models : forall tier, Text.IsSpaced (settings.tiers.get tier) (spaced.tiers.get tier)
  routing : settings.routing.IsSpaced spaced.routing
  rules : List.Forall₂ RuleSettings.IsSpaced settings.rules spaced.rules
  tags : spaced.tags = settings.tags

theorem Text.IsSpaced.trim_eq {text spaced : Text} (around : text.IsSpaced spaced) :
    trim spaced = trim text := by
  rcases around with ⟨before, after, blankBefore, blankAfter, same⟩
  rw [same, trim_append_border _ ((isBlankText_iff after).mp blankAfter),
    trim_border_append _ ((isBlankText_iff before).mp blankBefore)]

section

variable [CharacterNames]

/-! ## Rules -/

theorem RuleSettings.IsSpaced.compile_eq {settings spaced : RuleSettings}
    (around : settings.IsSpaced spaced) (index : Nat) :
    Rule.compile index spaced = Rule.compile index settings := by
  rw [around.others, Rule.compile, Rule.compile]
  simp only [around.category.trim_eq]
  rfl

theorem compileFrom_spaced {settings spaced : List RuleSettings}
    (around : List.Forall₂ RuleSettings.IsSpaced settings spaced) (index : Nat) :
    Rule.compileFrom index spaced = Rule.compileFrom index settings := by
  induction around generalizing index with
  | nil => rfl
  | cons here behind inductionHypothesis =>
      rw [Rule.compileFrom, Rule.compileFrom, here.compile_eq, inductionHypothesis]

theorem RuleList.compile_spaced {settings spaced : List RuleSettings}
    (around : List.Forall₂ RuleSettings.IsSpaced settings spaced) (fallback : Text) :
    RuleList.compile spaced fallback = RuleList.compile settings fallback := by
  rw [RuleList.compile, RuleList.compile, compileFrom_spaced around]

end

namespace Tables

/-! ## Tables -/

theorem trimModels_spaced {models spaced : TierModels}
    (around : forall tier, Text.IsSpaced (models.get tier) (spaced.get tier)) :
    trimModels spaced = trimModels models := by
  have low := (around .low).trim_eq
  have mid := (around .mid).trim_eq
  have top := (around .top).trim_eq
  simp only [TierModels.get] at low mid top
  rw [trimModels, trimModels, low, mid, top]

/-- Entries are trimmed one after the other, whatever the table that they are put into. -/
theorem trimRouting_spaced {routing spaced : RoutingTable} (around : routing.IsSpaced spaced) :
    trimRouting spaced = trimRouting routing := by
  rw [trimRouting, trimRouting]
  generalize ([] : RoutingTable) = table
  induction around generalizing table with
  | nil => rfl
  | cons here behind inductionHypothesis =>
      rw [List.foldl_cons, List.foldl_cons, here.1.trim_eq, here.2]
      exact inductionHypothesis _

section Building

variable {settings spaced : RouterSettings} (around : settings.IsSpaced spaced)

include around

variable [CharacterNames]

theorem rulesOf_spaced : rulesOf spaced = rulesOf settings := by
  rw [rulesOf, rulesOf, trimModels_spaced around.models, trimRouting_spaced around.routing]
  simp only [around.fallback.trim_eq, RuleList.compile_spaced around.rules]

omit [CharacterNames] in
theorem finish_spaced (models : TierModels) (fallback : Text) (routing : RoutingTable)
    (rules : RuleList) :
    finish spaced models fallback routing rules = finish settings models fallback routing rules := by
  rw [finish, finish, around.autoModel.trim_eq, around.tags]

theorem build_spaced : build spaced = build settings := by
  rw [build, build, rulesOf_spaced around, trimModels_spaced around.models,
    trimRouting_spaced around.routing, around.fallback.trim_eq]
  simp only [finish_spaced around]

/-- Settings with blanks put around names are refused with the fault of the settings without them,
or both are accepted and the tables decide on every message, route every request and tell who asks
for routing in the same way.  What building reports is the same in either case. -/
theorem blanks_around_names_do_not_show :
    buildNotices spaced = buildNotices settings ∧
    ((Exists fun fault : BuildFault =>
        build settings = .error fault ∧ build spaced = .error fault) ∨
      Exists fun tables : Tables => Exists fun others : Tables =>
        build settings = .ok tables ∧ build spaced = .ok others ∧ others.status = tables.status ∧
        (forall message, others.decide message = tables.decide message) ∧
        (forall request, others.route request = tables.route request) ∧
        forall request, others.isAutoRequest request = tables.isAutoRequest request) := by
  refine ⟨by rw [buildNotices, buildNotices, rulesOf_spaced around], ?_⟩
  rw [build_spaced around]
  cases built : build settings with
  | error fault => exact Or.inl ⟨fault, rfl, rfl⟩
  | ok tables =>
      exact Or.inr ⟨tables, tables, rfl, rfl, rfl, fun _ => rfl, fun _ => rfl, fun _ => rfl⟩

end Building

/-- Settings for one message and all others, without blanks around their names. -/
def plainNames (routing : RoutingTable) : RouterSettings :=
  { autoModel := ['a']
    fallback := ['c']
    tiers := ⟨['l'], ['m'], ['t']⟩
    routing
    rules := [{ category := ['d'], exact := [['x']] }] }

/-- The same settings with blanks around all of them. -/
def spacedNames (routing : RoutingTable) : RouterSettings :=
  { autoModel := [' ', 'a']
    fallback := ['c', '\n']
    tiers := ⟨['l', ' '], ['\t', 'm', ' '], [' ', 't']⟩
    routing
    rules := [{ category := [' ', 'd', ' '], exact := [['x']] }] }

theorem isSpaced_spacedNames {routing spaced : RoutingTable} (entries : routing.IsSpaced spaced) :
    (plainNames routing).IsSpaced (spacedNames spaced) where
  autoModel := ⟨[' '], [], rfl, rfl, rfl⟩
  fallback := ⟨[], ['\n'], rfl, rfl, rfl⟩
  models := by
    rintro (_ | _)
    · exact ⟨[], [' '], rfl, rfl, rfl⟩
    · exact ⟨['\t'], [' '], rfl, rfl, rfl⟩
    · exact ⟨[' '], [], rfl, rfl, rfl⟩
  routing := entries
  rules := .cons ⟨⟨[' '], [' '], rfl, rfl, rfl⟩, rfl⟩ .nil
  tags := rfl

/-- A routing table with two entries for one category, the second one in order to count. -/
def twofoldRouting : RoutingTable := [(['c'], .low), (['d', ' '], .mid), (['d'], .top)]

/-- The same table with blanks around its names. -/
def spacedRouting : RoutingTable := [([' ', 'c'], .low), (['d', ' ', '\t'], .mid), ([' ', 'd'], .top)]

theorem isSpaced_spacedRouting : twofoldRouting.IsSpaced spacedRouting :=
  .cons ⟨⟨[' '], [], rfl, rfl, rfl⟩, rfl⟩ (.cons ⟨⟨[], ['\t'], rfl, rfl, rfl⟩, rfl⟩
    (.cons ⟨⟨[' '], [], rfl, rfl, rfl⟩, rfl⟩ .nil))

/-- The message of the rule goes to the tier of the later entry for its category. -/
theorem blanks_around_names_do_not_show_twofold :
    Exists fun tables : Tables => Exists fun others : Tables =>
      build (plainNames twofoldRouting) = .ok tables ∧
        build (spacedNames spacedRouting) = .ok others ∧
        others.decide [' ', 'X'] = tables.decide [' ', 'X'] ∧
        (tables.decide [' ', 'X']).toOption.map (·.tier) = some .top := by
  have tier : ((build (plainNames twofoldRouting)).toOption.bind fun tables =>
      (tables.decide [' ', 'X']).toOption.map (·.tier)) = some .top := rfl
  rcases (blanks_around_names_do_not_show (isSpaced_spacedNames isSpaced_spacedRouting)).2 with
    ⟨fault, refused, _⟩ | ⟨tables, others, built, rebuilt, _, decides, _⟩
  · rw [refused] at tier
    cases tier
  · rw [built] at tier
    exact ⟨tables, others, built, rebuilt, decides _, tier⟩

end Tables
end Switchboard
