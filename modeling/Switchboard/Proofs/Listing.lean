import Switchboard.Catalog
import Switchboard.Proofs.Bounding
import Switchboard.Proofs.Lowering

namespace Switchboard

open Text

/-!
# Looking up model names without regard to case

A model name is trimmed, cut at its first slash and only then lowered, in pieces: the provider, the
model behind it and the name as a whole are each lowered apart.  The entries of a catalog are
lowered as they are, and they may carry a provider or further slashes.  Lowering is not done letter
by letter, so it has to be seen that the pieces of a lowered name are the lowered pieces: a slash
has no case and is not passed over, so what stands on one side of it is not seen from the other, and
no other character is lowered to a slash.

So it depends on the lowered name alone whether a name is accepted, whatever the catalog.  For a
provider with a list a name is accepted exactly if it is listed, as a whole or behind its provider.
-/

namespace Text

/-! ## Lowering around a slash -/

/-- No run of the case table maps the slash or leads to it. -/
theorem lowerRuns_avoid_slash : (lowerRuns.all fun run => run.avoids (0x2F, 0x2F)) = true := by
  decide

theorem lowersOut_slash : LowersOut (· == '/') := by
  apply lowersOut_of_letters ⟨rfl, rfl⟩ ⟨rfl, rfl⟩
  intro c other
  by_cases changed : lowerChar c = c
  · rw [changed, other]
  · rcases exists_run_of_lowerChar_ne changed with ⟨run, listed, covered, leads⟩
    have avoided := List.all_eq_true.mp lowerRuns_avoid_slash run listed
    have outside := (CaseRun.outside_of_avoids avoided covered).2
    apply beq_eq_false_iff_ne.mpr
    intro slash
    have code : run.map c.toNat = 0x2F := leads.symm.trans (congrArg Char.toNat slash)
    exact outside ⟨Nat.le_of_eq code.symm, Nat.le_of_eq code⟩

theorem slash_not_mem_lower {text : Text} (absent : '/' ∉ text) : '/' ∉ lower text := by
  intro shown
  rw [lower_eq_lowerWithin] at shown
  have free : forall c, c ∈ text -> (c == '/') = false := by
    intro c member
    exact beq_eq_false_iff_ne.mpr fun same => absent (same ▸ member)
  exact absurd (lowersOut_slash.forall_mem free '/' shown) (by decide)

/-- Both sides of a character that has no case and is not passed over are lowered as they are
alone. -/
theorem lower_append_cons {c : Char} (caseless : isCased c = false)
    (seen : isCaseIgnorable c = false) (lowered : IsLowered c) (front back : Text) :
    lower (front ++ c :: back) = lower front ++ c :: lower back := by
  have hidden : leadsWithCased (c :: back) = false := by
    rw [leadsWithCased, List.dropWhile_cons_of_neg (by rw [seen]; exact Bool.false_ne_true)]
    exact caseless
  have alone : lowerWithin false front (c :: back) = lowerWithin false front [] := by
    apply lowerWithin_eq_iff.mpr
    intro before after _
    rw [leadsWithCased_append hidden, List.append_nil]
  rw [lower_eq_lowerWithin, lowerWithin_append, List.append_nil, alone, lowerWithin,
    lowerForm_of_isLowered lowered, if_neg (by rw [seen]; exact Bool.false_ne_true), caseless,
    ← lower_eq_lowerWithin, ← lower_eq_lowerWithin]
  rfl

theorem lower_append_slash (front back : Text) :
    lower (front ++ '/' :: back) = lower front ++ '/' :: lower back :=
  lower_append_cons rfl rfl (by decide) front back

/-- The pieces of a lowered name are the lowered pieces of the name. -/
theorem cutAt?_slash_lower (text : Text) :
    cutAt? '/' (lower text) =
      (cutAt? '/' text).map fun parts => (lower parts.1, lower parts.2) := by
  cases cut : cutAt? '/' text with
  | none => exact cutAt?_eq_none_iff.mpr (slash_not_mem_lower (cutAt?_eq_none_iff.mp cut))
  | some parts =>
      rcases cutAt?_eq_some_iff.mp cut with ⟨whole, absent⟩
      refine cutAt?_eq_some_iff.mpr ⟨?_, slash_not_mem_lower absent⟩
      rw [whole, lower_append_slash]

end Text

namespace Catalog

/-! ## Names in lower case -/

/-- Whether a trimmed name in lower case is accepted. -/
def acceptsLowered (catalog : Option Catalog) (lowered : Text) : Bool :=
  match cutAt? '/' lowered with
  | none => false
  | some (provider, model) =>
      gateways.contains provider ||
        match catalog with
        | none => true
        | some catalog =>
            match catalog.lookup provider with
            | none => false
            | some [] => true
            | some names => names.any fun entry => lower entry == lowered || lower entry == model

/-- A name is accepted or refused by what it is in lower case. -/
theorem isNone_fault? (catalog : Option Catalog) (name : Text) :
    (fault? catalog name).isNone = acceptsLowered catalog (lower (trim name)) := by
  rw [fault?, acceptsLowered, cutAt?_slash_lower]
  cases cut : cutAt? '/' (trim name) with
  | none => rfl
  | some parts =>
      rcases parts with ⟨front, model⟩
      simp only [Option.map_some]
      cases gateway : gateways.contains (lower front) with
      | true => rfl
      | false =>
          cases catalog with
          | none => rfl
          | some catalog =>
              simp only [Bool.false_eq_true, if_false, Bool.false_or, Option.bind_some, faultOf?]
              cases known : catalog.lookup (lower front) with
              | none => rfl
              | some names =>
                  cases names with
                  | nil => rfl
                  | cons entry names =>
                      change Option.isNone (if lists (entry :: names) (trim name) model then none
                        else some _) = lists (entry :: names) (trim name) model
                      cases lists (entry :: names) (trim name) model <;> rfl

theorem fault?_eq_none_congr (catalog : Option Catalog) {first second : Text}
    (same : lower (trim first) = lower (trim second)) :
    fault? catalog first = none ↔ fault? catalog second = none := by
  rw [← Option.isNone_iff_eq_none, ← Option.isNone_iff_eq_none, isNone_fault?, isNone_fault?, same]

/-! ## Names that are listed -/

/-- A provider whose models are looked up: no gateway, with names under it. -/
structure Checks (catalog : Catalog) (provider : Text) (names : List Text) : Prop where
  listed : catalog.lookup provider = some names
  filled : names ≠ []
  noGateway : provider ∉ gateways

/-- A provider as catalogs write it: in lower case, without a slash and without blanks around it. -/
structure IsProvider (provider : Text) : Prop where
  lowered : lower provider = provider
  noSlash : '/' ∉ provider
  trimmed : trim provider = provider

variable {catalog : Catalog} {provider : Text} {names : List Text}

/-- A name of a provider that is checked is accepted exactly if it is listed, as a whole or behind
its provider. -/
theorem Checks.fault?_eq_none_iff (checks : catalog.Checks provider names)
    {name front model : Text} (cut : trim name = front ++ '/' :: model) (first : '/' ∉ front)
    (same : lower front = provider) :
    fault? (some catalog) name = none ↔
      Exists fun entry => entry ∈ names ∧
        (lower entry = lower (trim name) ∨ lower entry = lower model) := by
  rcases List.exists_cons_of_ne_nil checks.filled with ⟨entry, others, parts⟩
  have pieces : cutAt? '/' (lower (trim name)) = some (provider, lower model) := by
    rw [cutAt?_slash_lower, cutAt?_eq_some_iff.mpr ⟨cut, first⟩, Option.map_some, same]
  have direct : gateways.contains provider = false :=
    Bool.eq_false_iff.mpr fun gateway => checks.noGateway (List.contains_iff_mem.mp gateway)
  rw [← Option.isNone_iff_eq_none, isNone_fault?, acceptsLowered, pieces]
  simp only [direct, Bool.false_or, checks.listed, parts]
  simp only [List.any_eq_true, Bool.or_eq_true, beq_iff_eq]

theorem IsProvider.trim_append_slash (named : IsProvider provider) {model : Text}
    (trimmed : trim model = model) :
    trim (provider ++ '/' :: model) = provider ++ '/' :: model := by
  apply trim_eq_self
  · intro c start
    cases provider with
    | nil =>
        injection start with same
        rw [← same]
        rfl
    | cons d provider =>
        apply head?_trim (d :: provider) c
        rw [named.trimmed]
        exact start
  · intro c stop
    rw [List.getLast?_append_of_ne_nil _ (List.cons_ne_nil _ _)] at stop
    cases model with
    | nil =>
        injection stop with same
        rw [← same]
        rfl
    | cons d model =>
        apply getLast?_trim (d :: model) c
        rw [trimmed]
        exact stop

/-- A name of a provider that is checked is accepted exactly if an entry of the provider is the name
or what stands behind the provider, letter case apart.  So each entry without blanks around it is
accepted behind its provider, and also as it is if it starts with the provider.  Whatever the
catalog, names that are the same without their blanks and in lower case are accepted or refused
alike. -/
theorem names_are_accepted_as_listed :
    (forall (catalog : Catalog) (provider : Text) (names : List Text),
      catalog.Checks provider names ->
        (forall name front model : Text, trim name = front ++ '/' :: model -> '/' ∉ front ->
          lower front = provider ->
            (fault? (some catalog) name = none ↔
              Exists fun entry => entry ∈ names ∧
                (lower entry = lower (trim name) ∨ lower entry = lower model))) ∧
        (IsProvider provider -> forall entry, entry ∈ names -> trim entry = entry ->
          fault? (some catalog) (provider ++ '/' :: entry) = none ∧
            (provider ++ ['/'] <+: entry -> fault? (some catalog) entry = none))) ∧
    forall (catalog : Option Catalog) (first second : Text),
      lower (trim first) = lower (trim second) ->
        (fault? catalog first = none ↔ fault? catalog second = none) := by
  refine ⟨?_, fun catalog first second same => fault?_eq_none_congr catalog same⟩
  intro catalog provider names checks
  refine ⟨fun name front model cut first same => checks.fault?_eq_none_iff cut first same, ?_⟩
  intro named entry member trimmed
  constructor
  · have cut := named.trim_append_slash trimmed
    exact (checks.fault?_eq_none_iff cut named.noSlash named.lowered).mpr
      ⟨entry, member, Or.inr rfl⟩
  · rintro ⟨model, same⟩
    have cut : trim entry = provider ++ '/' :: model := by
      rw [trimmed, ← same, List.append_assoc]
      rfl
    refine (checks.fault?_eq_none_iff cut named.noSlash named.lowered).mpr ⟨entry, member, ?_⟩
    exact Or.inl (by rw [trimmed])

/-- A provider with a plain entry and one that carries the provider and ends in a capital sigma. -/
def labNames : List Text := [ofString "one", ofString "lab/ΟΔΟΣ"]

/-- A catalog with this provider and one without names. -/
def labCatalog : Catalog := [(ofString "empty", []), (ofString "lab", labNames)]

/-- A capital sigma before a blank is lowered to the final one of the entry; a small sigma is not, so
the same word written with it is refused. -/
theorem names_are_accepted_as_listed_greek :
    fault? (some labCatalog) (ofString "lab/one") = none ∧
      fault? (some labCatalog) (ofString "lab/ΟΔΟΣ") = none ∧
      fault? (some labCatalog) (ofString " LAB/οΔΟΣ\t") = none ∧
      fault? (some labCatalog) (ofString " LAB/οΔΟσ\t") ≠ none := by
  have checks : labCatalog.Checks (ofString "lab") labNames :=
    ⟨rfl, List.cons_ne_nil _ _, by decide⟩
  have named : IsProvider (ofString "lab") := ⟨rfl, by decide, rfl⟩
  have listed := (names_are_accepted_as_listed.1 _ _ _ checks).2 named
  have plain := listed (ofString "one") List.mem_cons_self rfl
  have carried := listed (ofString "lab/ΟΔΟΣ") (List.mem_cons_of_mem _ List.mem_cons_self) rfl
  have prefixed : fault? (some labCatalog) (ofString "lab/ΟΔΟΣ") = none := carried.2 ⟨_, rfl⟩
  have same : lower (trim (ofString "lab/ΟΔΟΣ")) = lower (trim (ofString " LAB/οΔΟΣ\t")) := by
    decide
  refine ⟨plain.1, prefixed, (names_are_accepted_as_listed.2 _ _ _ same).mp prefixed, ?_⟩
  intro accepted
  rcases ((names_are_accepted_as_listed.1 _ _ _ checks).1 (ofString " LAB/οΔΟσ\t")
    (ofString "LAB") (ofString "οΔΟσ") rfl (by decide) rfl).mp accepted with ⟨entry, member, found⟩
  rcases List.mem_pair.mp member with one | two
  · rw [one] at found
    exact absurd found (by decide)
  · rw [two] at found
    exact absurd found (by decide)

end Catalog
end Switchboard
