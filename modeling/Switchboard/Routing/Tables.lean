import Switchboard.Rule.Ordered

namespace Switchboard

/-!
The routing tables: rules, categories and models that fit together.

Tables are built as a whole from settings, and building checks that every category that can come
out has a tier and every tier a model.  The checks are made in a fixed order and the first one
that fails is reported.  All names are trimmed; when two names of the routing table are the same
after that, the later entry decides.
-/

/-- Routing tables that have been checked. -/
structure Tables where
  rules : RuleList
  routing : RoutingTable
  models : TierModels
  fallback : Text
  autoModel : Text
  tags : TagSettings
deriving Repr, DecidableEq

namespace Tables

/-- The models without blanks around their names. -/
def trimModels (models : TierModels) : TierModels :=
  ⟨Text.trim models.low, Text.trim models.mid, Text.trim models.top⟩

/-- The first tier whose model has no name. -/
def tierWithoutModel? (models : TierModels) : Option Tier :=
  Tier.all.find? fun tier => (models.get tier).isEmpty

/-- A table with a category set to a tier: in place where the category occurs, at the end
otherwise. -/
def setTier : RoutingTable -> Text -> Tier -> RoutingTable
  | [], category, tier => [(category, tier)]
  | (c, old) :: rest, category, tier =>
      if c = category then (c, tier) :: rest else (c, old) :: setTier rest category tier

/-- The routing table without blanks around its categories. -/
def trimRouting (routing : RoutingTable) : RoutingTable :=
  routing.foldl (fun table entry => setTier table (Text.trim entry.1) entry.2) []

/-- Whether a routing table has an entry for a category. -/
def isRouted (routing : RoutingTable) (category : Text) : Bool := (routing.lookup category).isSome

/-- The tables for given settings and rules, or the first fault that is found when the rules have
been compiled. -/
def finish (settings : RouterSettings) (models : TierModels) (fallback : Text)
    (routing : RoutingTable) (rules : RuleList) : Except BuildFault Tables :=
  match rules.rules.find? fun rule => !isRouted routing rule.category with
  | some rule => .error (.categoryNotRouted rule.index rule.category)
  | none =>
      let autoModel := Text.trim settings.autoModel
      if autoModel.isEmpty then .error .emptyAutoModel
      else .ok ⟨rules, routing, models, fallback, autoModel, settings.tags⟩

variable [CharacterNames]

/-- The rules for given settings, or the first fault that is found up to their compilation. -/
def rulesOf (settings : RouterSettings) : Except BuildFault RuleList :=
  match tierWithoutModel? (trimModels settings.tiers) with
  | some tier => .error (.tierWithoutModel tier)
  | none =>
      let fallback := Text.trim settings.fallback
      if fallback.isEmpty then .error .emptyFallback
      else if !isRouted (trimRouting settings.routing) fallback then
        .error (.fallbackNotRouted fallback)
      else RuleList.compile settings.rules fallback

/-- The tables for given settings. -/
def build (settings : RouterSettings) : Except BuildFault Tables :=
  match rulesOf settings with
  | .error fault => .error fault
  | .ok rules =>
      finish settings (trimModels settings.tiers) (Text.trim settings.fallback)
        (trimRouting settings.routing) rules

/-- The tier of a category. -/
def tierOf (tables : Tables) (category : Text) : Except RoutingFault Tier :=
  match tables.routing.lookup category with
  | some tier => .ok tier
  | none => .error (.unknownCategory category)

/-- The model of a tier. -/
def modelOf (tables : Tables) (tier : Tier) : Text := tables.models.get tier

/-- The category of a message. -/
def classify (tables : Tables) (message : Text) : Text := tables.rules.classify message

/-- The categories that rules assign, in order and without repetition. -/
def categories (tables : Tables) : List Text :=
  ((tables.rules.rules.map (·.category)).mergeSort fun a b => !List.lex b a).eraseDups

end Tables
end Switchboard
