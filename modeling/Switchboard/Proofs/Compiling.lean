import Switchboard.Proofs.Trimming
import Switchboard.Rule.Ordered

namespace Switchboard

open Text

/-!
# What compiled rules are made of

A rule that compiles is put together from its settings alone: its place, the trimmed category, one
test for each kind of phrase in use and the mark of a rule that goes by length.  A list of rules
compiles exactly if every rule of it does, and the rule at each place is then the one compiled from
the settings at that place.

Patterns and rules are compiled in the same way: results are taken in order up to the first fault.
The laws of that are proved once, for both.  What is proved of tables and of matching goes from
settings to rules through the descriptions below and does not open the compilation again.
-/

/-! ## Results in order -/

/-- The fault of a result. -/
def fault? : Except ε α -> Option ε
  | .ok _ => none
  | .error fault => some fault

theorem fault?_eq_some_iff {result : Except ε α} {fault : ε} :
    fault? result = some fault ↔ result = .error fault := by
  cases result <;> simp [fault?]

theorem fault?_eq_none_iff {result : Except ε α} :
    fault? result = none ↔ Exists fun value : α => result = .ok value := by
  cases result <;> simp [fault?]

theorem toOption_eq_some_iff {result : Except ε α} {value : α} :
    result.toOption = some value ↔ result = .ok value := by
  cases result <;> simp [Except.toOption]

/-- The values of results in order, or the first fault. -/
def inOrder : List (Except ε α) -> Except ε (List α)
  | [] => .ok []
  | .error fault :: _ => .error fault
  | .ok value :: results => (inOrder results).map (value :: ·)

theorem inOrder_eq_ok_iff {results : List (Except ε α)} {values : List α} :
    inOrder results = .ok values ↔ results = values.map .ok := by
  induction results generalizing values with
  | nil =>
      unfold inOrder
      cases values <;> simp
  | cons result results ih =>
      cases result with
      | error fault =>
          unfold inOrder
          cases values <;> simp
      | ok value =>
          unfold inOrder
          cases values with
          | nil => cases inOrder results <;> simp [Except.map]
          | cons first values =>
              have rest : inOrder results = .ok values ↔ results = values.map .ok := ih
              cases others : inOrder results with
              | error fault =>
                  rw [others] at rest
                  simp [Except.map, ← rest]
              | ok found =>
                  rw [others] at rest
                  simp [Except.map, ← rest]

theorem fault?_inOrder (results : List (Except ε α)) :
    fault? (inOrder results) = results.findSome? fault? := by
  induction results with
  | nil => rfl
  | cons result results ih =>
      cases result with
      | error fault => rfl
      | ok value =>
          unfold inOrder
          rw [List.findSome?_cons, ← ih]
          cases inOrder results <;> rfl

/-! ## Rules -/

theorem isEmpty_trim (text : Text) : (trim text).isEmpty = isBlankText text := by
  apply Bool.eq_iff_iff.mpr
  rw [List.isEmpty_iff, isBlankText_iff]
  constructor
  · intro empty c member
    by_cases start : trimStart text = []
    · exact forall_of_trimStartOf_eq_nil start c member
    · -- What trimming the start leaves begins with a character that trimming the end keeps.
      have blank := forall_of_trimEndOf_eq_nil empty
      cases left : trimStart text with
      | nil => exact absurd left start
      | cons first rest =>
          have kept := head?_trimStartOf text first (by rw [← trimStart, left]; rfl)
          have dropped := blank first (by rw [left]; exact List.mem_cons_self)
          rw [kept] at dropped
          cases dropped
  · intro blank
    have start : trimStart text = [] := trimStartOf_eq_nil blank
    rw [trim, start]
    rfl

/-- A name that is not empty and has no blanks around it. -/
def IsName (name : Text) : Prop := name ≠ [] ∧ trim name = name

theorem isName_trim {text : Text} (filled : isBlankText text = false) : IsName (trim text) := by
  constructor
  · intro empty
    rw [← isEmpty_trim, empty] at filled
    cases filled
  · exact trim_trim text

namespace Rule

variable [CharacterNames]

theorem readPatterns_eq_inOrder (index : Nat) (category : Text) (texts : List Text) :
    readPatterns index category texts = inOrder (texts.map fun text =>
      (Pattern.read text).mapError (BuildFault.ofPattern index category text)) := by
  induction texts with
  | nil => rfl
  | cons text texts ih =>
      rw [readPatterns, List.map_cons, ih]
      cases Pattern.read text with
      | error fault => rfl
      | ok pattern =>
          simp only [Except.mapError, inOrder]
          cases inOrder _ <;> rfl

theorem compileFrom_eq_inOrder (start : Nat) (settings : List RuleSettings) :
    compileFrom start settings =
      inOrder (settings.mapIdx fun place settings => compile (start + place) settings) := by
  induction settings generalizing start with
  | nil => rfl
  | cons settings others ih =>
      have shifted : (fun place settings => compile (start + (place + 1)) settings) =
          fun place settings => compile (start + 1 + place) settings := by
        funext place settings
        rw [Nat.add_assoc, Nat.add_comm 1 place]
      rw [compileFrom, List.mapIdx_cons, shifted, ih, Nat.add_zero]
      cases compile start settings with
      | error fault => rfl
      | ok rule =>
          simp only [inOrder]
          cases inOrder _ <;> rfl

theorem readPatterns_eq_ok_iff {index : Nat} {category : Text} {texts : List Text}
    {patterns : List Pattern} :
    readPatterns index category texts = .ok patterns ↔
      texts.map Pattern.read = patterns.map .ok := by
  rw [readPatterns_eq_inOrder, inOrder_eq_ok_iff]
  induction texts generalizing patterns with
  | nil => simp
  | cons text texts ih =>
      cases patterns with
      | nil => simp
      | cons pattern patterns =>
          simp only [List.map_cons, List.cons.injEq, ih]
          apply and_congr_left
          intro _
          cases Pattern.read text <;> simp [Except.mapError]

/-- A rule that compiles has a category and a test, and is made of its settings. -/
theorem compile_eq_ok_iff {index : Nat} {settings : RuleSettings} {rule : Rule} :
    compile index settings = .ok rule ↔
      isBlankText settings.category = false ∧ Exists fun patterns : List Pattern =>
        settings.patterns.map Pattern.read = patterns.map .ok ∧
          testsOf settings patterns ≠ [] ∧
          rule = ⟨index, trim settings.category, testsOf settings patterns,
            !settings.hasTextTests⟩ := by
  unfold compile
  simp only [isEmpty_trim, ← @readPatterns_eq_ok_iff _ index (trim settings.category)]
  cases blank : isBlankText settings.category with
  | true => simp
  | false =>
      cases read : readPatterns index (trim settings.category) settings.patterns with
      | error fault => simp
      | ok patterns =>
          by_cases empty : testsOf settings patterns = []
          · simp [empty]
          · have tested : ¬ (testsOf settings patterns).isEmpty = true := by
              rw [List.isEmpty_iff]
              exact empty
            simp only [Bool.false_eq_true, if_false, if_neg tested, Except.ok.injEq, true_and]
            constructor
            · intro same
              exact ⟨patterns, rfl, empty, same.symm⟩
            · rintro ⟨others, same, _, made⟩
              rw [same, made]

theorem of_compile {index : Nat} {settings : RuleSettings} {rule : Rule}
    (compiled : compile index settings = .ok rule) :
    rule.index = index ∧ rule.category = trim settings.category ∧ IsName rule.category ∧
      rule.tests ≠ [] := by
  rcases compile_eq_ok_iff.mp compiled with ⟨named, patterns, _, tested, same⟩
  rw [same]
  exact ⟨rfl, rfl, isName_trim named, tested⟩

/-- The rule at each place is compiled from the settings at that place. -/
theorem compileFrom_zero_eq_ok_iff {settings : List RuleSettings} {rules : List Rule} :
    compileFrom 0 settings = .ok rules ↔
      forall place : Nat, settings[place]?.map (compile place) = rules[place]?.map .ok := by
  rw [compileFrom_eq_inOrder, inOrder_eq_ok_iff]
  constructor
  · intro same place
    have here := congrArg (fun results => results[place]?) same
    simpa using here
  · intro everywhere
    apply List.ext_getElem?
    intro place
    simpa using everywhere place

/-- Rules compile if each of them does at its place. -/
theorem exists_compileFrom {settings : List RuleSettings}
    (each : forall (place : Nat) (here : RuleSettings), settings[place]? = some here ->
      Exists fun rule : Rule => compile place here = .ok rule) :
    Exists fun rules : List Rule => compileFrom 0 settings = .ok rules := by
  apply fault?_eq_none_iff.mp
  rw [compileFrom_eq_inOrder, fault?_inOrder, List.findSome?_eq_none_iff]
  intro result member
  rcases List.mem_mapIdx.mp member with ⟨place, inside, same⟩
  rcases each place settings[place] (List.getElem?_eq_getElem inside) with ⟨rule, made⟩
  rw [← same, Nat.zero_add, made]
  rfl

end Rule

namespace RuleList

variable [CharacterNames]

theorem compile_eq_ok_iff {settings : List RuleSettings} {fallback : Text} {list : RuleList} :
    compile settings fallback = .ok list ↔
      Rule.compileFrom 0 settings = .ok list.rules ∧ list.fallback = fallback ∧
        fallbackByText? fallback list.rules = none := by
  unfold compile
  rcases list with ⟨rules, other⟩
  cases compiled : Rule.compileFrom 0 settings with
  | error fault => simp
  | ok found =>
      simp only [Except.ok.injEq]
      cases byText : fallbackByText? fallback found with
      | some rule =>
          simp only [reduceCtorEq, false_iff, not_and]
          intro same _
          rw [← same, byText]
          exact Option.some_ne_none rule
      | none =>
          simp only [Except.ok.injEq, mk.injEq]
          constructor
          · rintro ⟨same, fallbacks⟩
            exact ⟨same, fallbacks.symm, same ▸ byText⟩
          · rintro ⟨same, fallbacks, _⟩
            exact ⟨same, fallbacks.symm⟩

/-- The rule at a place of an accepted list is compiled from the settings at that place. -/
theorem compile_of_getElem? {settings : List RuleSettings} {fallback : Text} {list : RuleList}
    (compiled : compile settings fallback = .ok list) {place : Nat} {rule : Rule}
    (found : list.rules[place]? = some rule) :
    Exists fun here : RuleSettings => settings[place]? = some here ∧
      Rule.compile place here = .ok rule := by
  have everywhere := Rule.compileFrom_zero_eq_ok_iff.mp (compile_eq_ok_iff.mp compiled).1 place
  rw [found] at everywhere
  exact Option.map_eq_some_iff.mp everywhere

/-- The settings at a place of an accepted list compile to the rule at that place. -/
theorem getElem?_of_compile {settings : List RuleSettings} {fallback : Text} {list : RuleList}
    (compiled : compile settings fallback = .ok list) {place : Nat} {here : RuleSettings}
    (found : settings[place]? = some here) :
    Exists fun rule : Rule => list.rules[place]? = some rule ∧
      Rule.compile place here = .ok rule := by
  have everywhere := Rule.compileFrom_zero_eq_ok_iff.mp (compile_eq_ok_iff.mp compiled).1 place
  rw [found] at everywhere
  rcases Option.map_eq_some_iff.mp everywhere.symm with ⟨rule, listed, same⟩
  exact ⟨rule, listed, same.symm⟩

theorem categories_of_compile {settings : List RuleSettings} {fallback : Text} {list : RuleList}
    (compiled : compile settings fallback = .ok list) :
    list.rules.map (·.category) = settings.map (trim ·.category) := by
  apply List.ext_getElem?
  intro place
  rw [List.getElem?_map, List.getElem?_map]
  cases here : settings[place]? with
  | some settings =>
      rcases getElem?_of_compile compiled here with ⟨rule, found, made⟩
      rw [found, Option.map_some, Option.map_some, (Rule.of_compile made).2.1]
  | none =>
      cases found : list.rules[place]? with
      | none => rfl
      | some rule =>
          rcases compile_of_getElem? compiled found with ⟨other, there, _⟩
          rw [here] at there
          cases there

end RuleList
end Switchboard
