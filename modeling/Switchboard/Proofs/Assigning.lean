import Switchboard.Proofs.Validating
import Mathlib.Data.List.Induction

namespace Switchboard

open Text

/-!
# What the entries of a routing table say

An entry of the routing table gives a tier to a category.  Building trims the names of the entries,
so entries that are kept apart by blanks alone meet in one category, and the last of them is the one
that counts.

So an entry says the tier of its category exactly if none behind it says otherwise, and all of them
do exactly if no two entries contradict each other.  Then the order of the entries is of no account:
each order is accepted, and every message and every request comes to the same model.  Contradicting
entries are accepted as well, and it is their order that decides between them.
-/

namespace RoutingTable

/-- The tiers that the entries of a table give to a category, in their order. -/
def tiersOf (routing : RoutingTable) (category : Text) : List Tier :=
  (routing.filter fun entry => trim entry.1 == category).map (·.2)

/-- No two entries give different tiers to one category. -/
def IsConsistent (routing : RoutingTable) : Prop :=
  forall first second, first ∈ routing -> second ∈ routing -> trim first.1 = trim second.1 ->
    first.2 = second.2

variable {routing other : RoutingTable} {category : Text} {tier : Tier}

theorem mem_tiersOf_iff :
    tier ∈ routing.tiersOf category ↔ Exists fun name => (name, tier) ∈ routing ∧
      trim name = category := by
  simp [tiersOf]

theorem mem_tiersOf {entry : Text × Tier} (member : entry ∈ routing) :
    entry.2 ∈ routing.tiersOf (trim entry.1) :=
  mem_tiersOf_iff.mpr ⟨entry.1, member, rfl⟩

theorem tiersOf_append (routing other : RoutingTable) (category : Text) :
    tiersOf (routing ++ other) category = routing.tiersOf category ++ other.tiersOf category := by
  rw [tiersOf, List.filter_append, List.map_append]
  rfl

theorem tiersOf_singleton (entry : Text × Tier) (category : Text) :
    tiersOf [entry] category = if trim entry.1 = category then [entry.2] else [] := by
  by_cases here : trim entry.1 = category <;> simp [tiersOf, here]

theorem IsConsistent.perm (consistent : routing.IsConsistent) (reordered : other.Perm routing) :
    other.IsConsistent := by
  intro first second here there
  exact consistent first second (reordered.mem_iff.mp here) (reordered.mem_iff.mp there)

/-- Without contradiction the last tier of a category is the only one. -/
theorem IsConsistent.getLast?_tiersOf (consistent : routing.IsConsistent)
    {entry : Text × Tier} (member : entry ∈ routing) :
    (routing.tiersOf (trim entry.1)).getLast? = some entry.2 := by
  have given := List.ne_nil_of_mem (mem_tiersOf member)
  rw [List.getLast?_eq_some_getLast given]
  rcases mem_tiersOf_iff.mp (List.getLast_mem given) with ⟨name, there, same⟩
  exact congrArg some (consistent _ _ there member same)

/-- Tables without contradiction that hold the same entries agree on every category. -/
theorem IsConsistent.getLast?_tiersOf_perm (consistent : routing.IsConsistent)
    (reordered : other.Perm routing) (category : Text) :
    (other.tiersOf category).getLast? = (routing.tiersOf category).getLast? := by
  cases found : (routing.tiersOf category).getLast? with
  | none =>
      have same : (other.tiersOf category).Perm (routing.tiersOf category) :=
        (reordered.filter _).map _
      rw [List.getLast?_eq_none_iff] at found ⊢
      rw [found] at same
      exact same.eq_nil
  | some tier =>
      rcases mem_tiersOf_iff.mp (List.mem_of_getLast? found) with ⟨name, member, same⟩
      rw [← same]
      exact (consistent.perm reordered).getLast?_tiersOf (reordered.mem_iff.mpr member)

theorem names_perm (reordered : other.Perm routing) (category : Text) :
    other.names category = routing.names category := by
  rw [Bool.eq_iff_iff, names, names, List.any_eq_true, List.any_eq_true]
  simp only [reordered.mem_iff]

end RoutingTable

namespace Tables

/-- A trimmed table holds, for each category, the last tier that is given to it. -/
theorem lookup_trimRouting (routing : RoutingTable) (category : Text) :
    (trimRouting routing).lookup category = (routing.tiersOf category).getLast? := by
  induction routing using List.reverseRecOn with
  | nil => rfl
  | append_singleton routing entry ih =>
      have last : trimRouting (routing ++ [entry]) =
          setTier (trimRouting routing) (trim entry.1) entry.2 :=
        List.foldl_append
      rw [last, lookup_setTier, ih, RoutingTable.tiersOf_append, RoutingTable.tiersOf_singleton,
        List.getLast?_append, Bool.beq_comm]
      by_cases here : trim entry.1 = category
      · rw [if_pos (beq_iff_eq.mpr here), if_pos here]
        rfl
      · rw [if_neg (fun same => here (beq_iff_eq.mp same)), if_neg here]
        rfl

/-! ## Tables that differ in the order of their entries -/

section Reordered

variable {settings : RouterSettings} {tables : Tables} {routing : RoutingTable}

/-- Building goes by the names in a routing table and not by their order. -/
theorem build_perm [CharacterNames] (built : build settings = .ok tables)
    (reordered : routing.Perm settings.routing) :
    build { settings with routing } = .ok { tables with routing := trimRouting routing } := by
  have routed : forall category,
      isRouted (trimRouting routing) category = isRouted (trimRouting settings.routing) category := by
    intro category
    rw [isRouted_trimRouting, isRouted_trimRouting, RoutingTable.names_perm reordered]
  rcases build_eq_ok built with ⟨rules, compiled, _, _, same⟩
  have compiledToo : rulesOf { settings with routing } = .ok rules := by
    rw [← compiled]
    simp only [rulesOf, routed]
  rw [build, compiled] at built
  rw [build, compiledToo]
  simp only [finish, routed] at built ⊢
  cases absent : rules.rules.find?
      fun rule => !isRouted (trimRouting settings.routing) rule.category with
  | some rule =>
      rw [absent] at built
      cases built
  | none =>
      rw [absent] at built
      simp only at built ⊢
      split at built
      · cases built
      · rename_i named
        rw [if_neg named, same]

variable (agree : forall category, routing.lookup category = tables.routing.lookup category)
include agree

theorem tierOf_withRouting (category : Text) :
    ({ tables with routing } : Tables).tierOf category = tables.tierOf category := by
  unfold tierOf
  rw [agree]

theorem decide_withRouting (message : Text) :
    ({ tables with routing } : Tables).decide message = tables.decide message := by
  have byRules : ({ tables with routing } : Tables).decideByRules message =
      tables.decideByRules message := by
    unfold decideByRules
    simp only [tierOf_withRouting agree]
    rfl
  unfold decide
  rw [byRules]
  rfl

theorem route_withRouting (request : Chat.Request) :
    ({ tables with routing } : Tables).route request = tables.route request := by
  unfold route
  rw [decide_withRouting agree]
  rfl

end Reordered

section

variable [CharacterNames]

/-- The tier of a category is the last one that an entry of the settings gives to it. -/
theorem tierOf_of_build {settings : RouterSettings} {tables : Tables}
    (built : build settings = .ok tables) (category : Text) :
    tables.tierOf category =
      ((settings.routing.tiersOf category).getLast?.map Except.ok).getD
        (.error (.unknownCategory category)) := by
  rcases build_eq_ok built with ⟨rules, _, _, _, same⟩
  rw [same, tierOf, lookup_trimRouting]
  cases (settings.routing.tiersOf category).getLast? <;> rfl

/-- An entry says the tier of its category exactly if its tier is the last one given. -/
theorem tierOf_eq_ok_iff {settings : RouterSettings} {tables : Tables}
    (built : build settings = .ok tables) {category : Text} {tier : Tier} :
    tables.tierOf category = .ok tier ↔
      (settings.routing.tiersOf category).getLast? = some tier := by
  rw [tierOf_of_build built]
  cases (settings.routing.tiersOf category).getLast? <;> simp

/-- In tables that were built each category has the last tier that an entry gives to it.  So the
entries all say the tiers of their categories exactly if no two of them contradict each other, and
exactly then no other order of them changes a tier.  Every order of the entries is accepted, and if
there is no contradiction it decides on every message and routes every request in the same way. -/
theorem entries_say_their_tiers_iff {settings : RouterSettings} {tables : Tables}
    (built : build settings = .ok tables) :
    (forall entry, entry ∈ settings.routing ->
      (tables.tierOf (trim entry.1) = .ok entry.2 ↔
        (settings.routing.tiersOf (trim entry.1)).getLast? = some entry.2)) ∧
    ((forall entry, entry ∈ settings.routing -> tables.tierOf (trim entry.1) = .ok entry.2) ↔
      settings.routing.IsConsistent) ∧
    ((forall (routing : RoutingTable) (others : Tables), routing.Perm settings.routing ->
        build { settings with routing } = .ok others ->
          forall category, others.tierOf category = tables.tierOf category) ↔
      settings.routing.IsConsistent) ∧
    forall routing : RoutingTable, routing.Perm settings.routing ->
      Exists fun others : Tables => build { settings with routing } = .ok others ∧
        (settings.routing.IsConsistent ->
          (forall message, others.decide message = tables.decide message) ∧
            forall request, others.route request = tables.route request) := by
  have agree : settings.routing.IsConsistent -> forall routing : RoutingTable,
      routing.Perm settings.routing -> forall category,
        (trimRouting routing).lookup category = tables.routing.lookup category := by
    intro consistent routing reordered category
    rcases build_eq_ok built with ⟨rules, _, _, _, same⟩
    rw [same, lookup_trimRouting, lookup_trimRouting]
    exact consistent.getLast?_tiersOf_perm reordered category
  refine ⟨fun entry _ => tierOf_eq_ok_iff built, ⟨?_, ?_⟩, ⟨?_, ?_⟩, ?_⟩
  · intro all first second here there same
    have given := all first here
    rw [same, all second there] at given
    exact (Except.ok.inj given).symm
  · intro consistent entry member
    exact (tierOf_eq_ok_iff built).mpr (consistent.getLast?_tiersOf member)
  · intro stays first second here there same
    -- Each of the two entries may be put at the end, where its tier is the one that counts.
    have said : forall entry, entry ∈ settings.routing ->
        tables.tierOf (trim entry.1) = .ok entry.2 := by
      intro entry member
      have reordered : (settings.routing.erase entry ++ [entry]).Perm settings.routing :=
        (List.perm_append_singleton _ _).trans (List.perm_cons_erase member).symm
      have rebuilt := build_perm built reordered
      rw [← stays _ _ reordered rebuilt, tierOf_eq_ok_iff rebuilt, RoutingTable.tiersOf_append,
        RoutingTable.tiersOf_singleton, if_pos rfl, List.getLast?_concat]
    have given := said first here
    rw [same, said second there] at given
    exact (Except.ok.inj given).symm
  · intro consistent routing others reordered rebuilt category
    have same : { tables with routing := trimRouting routing } = others :=
      Except.ok.inj ((build_perm built reordered).symm.trans rebuilt)
    rw [← same]
    exact tierOf_withRouting (agree consistent routing reordered) category
  · intro routing reordered
    refine ⟨_, build_perm built reordered, ?_⟩
    intro consistent
    have lookups := agree consistent routing reordered
    exact ⟨decide_withRouting lookups, route_withRouting lookups⟩

end

/-- Settings in which a category occurs twice, with and without blanks. -/
def twofoldSettings (plain padded : Tier) : RouterSettings :=
  { autoModel := ['a']
    fallback := ['c']
    tiers := ⟨['l'], ['m'], ['t']⟩
    routing := [(['c'], plain), ([' ', 'c'], padded)]
    rules := [] }

/-- What is built from them. -/
def twofoldTables (padded : Tier) : Tables :=
  { rules := ⟨[], ['c']⟩
    routing := [(['c'], padded)]
    models := ⟨['l'], ['m'], ['t']⟩
    fallback := ['c']
    autoModel := ['a']
    tags := {} }

/-- Entries that agree on the tier of their category may change places. -/
theorem entries_say_their_tiers_iff_agreeing :
    build (twofoldSettings .top .top) = .ok (twofoldTables .top) ∧
      (twofoldTables .top).tierOf ['c'] = .ok .top ∧
      Exists fun others : Tables =>
        build { twofoldSettings .top .top with routing := [([' ', 'c'], .top), (['c'], .top)] } =
            .ok others ∧
          forall message, others.decide message = (twofoldTables .top).decide message := by
  have built : build (twofoldSettings .top .top) = .ok (twofoldTables .top) := rfl
  have consistent : (twofoldSettings .top .top).routing.IsConsistent := by
    intro first second here there _
    simp only [twofoldSettings, List.mem_cons, List.not_mem_nil, or_false] at here there
    rcases here with rfl | rfl <;> rcases there with rfl | rfl <;> rfl
  rcases entries_say_their_tiers_iff built with ⟨_, said, _, reordered⟩
  rcases reordered [([' ', 'c'], .top), (['c'], .top)] (List.Perm.swap _ _ _) with
    ⟨others, rebuilt, agree⟩
  exact ⟨built, said.mpr consistent (['c'], .top) List.mem_cons_self, others, rebuilt,
    (agree consistent).1⟩

/-- An entry is lost behind another one for the same category, and it depends on the order of the
two where a message goes. -/
theorem entry_is_lost_behind_its_padded_twin :
    (¬ forall (settings : RouterSettings) (tables : Tables),
      (settings.routing.map (·.1)).Nodup -> build settings = .ok tables ->
        forall entry, entry ∈ settings.routing -> tables.tierOf (trim entry.1) = .ok entry.2) ∧
    ¬ forall (settings : RouterSettings) (tables : Tables),
      (settings.routing.map (·.1)).Nodup -> build settings = .ok tables ->
        forall (routing : RoutingTable) (others : Tables), routing.Perm settings.routing ->
          build { settings with routing } = .ok others ->
            forall message, others.decide message = tables.decide message := by
  have built : build (twofoldSettings .low .top) = .ok (twofoldTables .top) := rfl
  have apart : ((twofoldSettings .low .top).routing.map (·.1)).Nodup := by simp [twofoldSettings]
  constructor
  · intro all
    have said := all _ _ apart built (['c'], .low) List.mem_cons_self
    cases said
  · intro all
    have same := all _ _ apart built [([' ', 'c'], .top), (['c'], .low)] (twofoldTables .low)
      (List.Perm.swap _ _ _) rfl []
    cases same

end Tables
end Switchboard
