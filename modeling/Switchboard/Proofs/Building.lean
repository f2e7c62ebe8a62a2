import Switchboard.Routing.Tables

namespace Switchboard
namespace Tables

open Text

/-!
# Tables that are built are closed

Building checks once that the fallback category and the category of every rule have a tier.  No
message gets any other category, so no look-up of a category fails while tables that were built are
in use, whatever the message.
-/

/-- Every category that a message may get has a tier. -/
structure IsClosed (tables : Tables) : Prop where
  fallback : isRouted tables.routing tables.fallback = true
  rules : forall rule, rule ∈ tables.rules.rules -> isRouted tables.routing rule.category = true

section

variable [CharacterNames]

theorem rulesOf_eq_ok {settings : RouterSettings} {rules : RuleList}
    (compiled : rulesOf settings = .ok rules) :
    tierWithoutModel? (trimModels settings.tiers) = none ∧
      (trim settings.fallback).isEmpty = false ∧
      isRouted (trimRouting settings.routing) (trim settings.fallback) = true ∧
      RuleList.compile settings.rules (trim settings.fallback) = .ok rules := by
  rw [rulesOf] at compiled
  split at compiled
  · cases compiled
  · rename_i complete
    simp only at compiled
    split at compiled
    · cases compiled
    · rename_i nonempty
      split at compiled
      · cases compiled
      · rename_i routed
        exact ⟨complete, Bool.eq_false_iff.mpr nonempty, by simpa using routed, compiled⟩

/-- What building has checked, and the tables that it puts together. -/
theorem build_eq_ok {settings : RouterSettings} {tables : Tables}
    (built : build settings = .ok tables) :
    Exists fun rules : RuleList => rulesOf settings = .ok rules ∧
      (forall rule, rule ∈ rules.rules ->
        isRouted (trimRouting settings.routing) rule.category = true) ∧
      (trim settings.autoModel).isEmpty = false ∧
      tables = ⟨rules, trimRouting settings.routing, trimModels settings.tiers,
        trim settings.fallback, trim settings.autoModel, settings.tags⟩ := by
  rw [build] at built
  split at built
  · cases built
  · rename_i rules compiled
    rw [finish] at built
    split at built
    · cases built
    · rename_i routed
      simp only at built
      split at built
      · cases built
      · rename_i nonempty
        injection built with same
        refine ⟨rules, compiled, ?_, Bool.eq_false_iff.mpr nonempty, same.symm⟩
        intro rule member
        simpa using List.find?_eq_none.mp routed rule member

theorem isClosed_of_build {settings : RouterSettings} {tables : Tables}
    (built : build settings = .ok tables) : tables.IsClosed := by
  rcases build_eq_ok built with ⟨rules, compiled, routed, _, same⟩
  rw [same]
  exact ⟨(rulesOf_eq_ok compiled).2.2.1, routed⟩

end

theorem exists_tierOf {tables : Tables} {category : Text}
    (routed : isRouted tables.routing category = true) :
    Exists fun tier : Tier => tables.tierOf category = .ok tier := by
  rcases Option.isSome_iff_exists.mp routed with ⟨tier, found⟩
  refine ⟨tier, ?_⟩
  rw [tierOf, found]

theorem mem_rules_of_match? {list : RuleList} {message : Text} {rule : Rule}
    (matched : list.match? message = some rule) : rule ∈ list.rules := by
  rw [RuleList.match?] at matched
  split at matched
  · cases matched
  · exact List.mem_of_find?_eq_some matched

/-- The category that the rules give to a message has a tier. -/
theorem IsClosed.category {tables : Tables} (closed : tables.IsClosed) (message : Text) :
    isRouted tables.routing
      (((tables.rules.match? message).map (·.category)).getD tables.fallback) = true := by
  cases matched : tables.rules.match? message with
  | none => exact closed.fallback
  | some rule => exact closed.rules rule (mem_rules_of_match? matched)

end Tables
end Switchboard
