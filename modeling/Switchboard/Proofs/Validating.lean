import Switchboard.Proofs.Covering
import Switchboard.Proofs.Greeting
import Switchboard.Proofs.Refusing

namespace Switchboard

open Text

/-!
# Building reports the first fault of the settings

Building stops at the first thing that is wrong.  Here everything that is wrong with settings is
listed, whether or not building gets that far: models, the fallback category, the rules one after
the other, rules that assign the fallback category by more than length, categories of rules without
a tier, and the name that asks for routing.  Building fails exactly if the list is not empty, and
then with the first fault of the list.

Rules are gone through three times, by two functions.  The second and third time it is the compiled
rules that are looked at, but nothing is looked at that their settings do not show as well.
-/

/-- A fault under a condition. -/
def faultIf (condition : Bool) (fault : BuildFault) : List BuildFault :=
  if condition then [fault] else []

theorem mem_faultIf_iff {condition : Bool} {fault other : BuildFault} :
    other ∈ faultIf condition fault ↔ condition = true ∧ other = fault := by
  cases condition <;> simp [faultIf]

theorem head?_faultIf (condition : Bool) (fault : BuildFault) :
    (faultIf condition fault).head? = if condition then some fault else none := by
  cases condition <;> rfl

namespace RuleSettings

/-- Settings of which no test can be made. -/
def isBare (settings : RuleSettings) : Bool :=
  settings.exact.all isBlankText && settings.beginnings.all isBlankText &&
    settings.contains.all isBlankText && settings.words.all isBlankText &&
    settings.patterns.isEmpty && settings.maxChars.isNone

variable [CharacterNames]

/-- The faults of the patterns of a rule at a place. -/
def patternFaults (index : Nat) (settings : RuleSettings) : List BuildFault :=
  settings.patterns.filterMap fun text =>
    (fault? (Pattern.read text)).map (BuildFault.ofPattern index (trim settings.category) text)

/-- The faults of a rule at a place. -/
def faults (index : Nat) (settings : RuleSettings) : List BuildFault :=
  faultIf (isBlankText settings.category) (.emptyCategory index) ++
    settings.patternFaults index ++
    faultIf settings.isBare (.ruleWithoutTests index (trim settings.category))

/-- What is wrong with a rule at a place. -/
inductive HasFault (index : Nat) (settings : RuleSettings) : BuildFault -> Prop where
  | category (blank : isBlankText settings.category = true) :
      HasFault index settings (.emptyCategory index)
  | pattern {text : Text} {problem : Pattern.Problem} {position : Option Nat}
      (listed : text ∈ settings.patterns)
      (refused : Pattern.read text = .error (.malformed problem position)) :
      HasFault index settings (.badPattern index (trim settings.category) text problem position)
  | tests (phrases : forall phrase, phrase ∈ settings.exact ++ settings.beginnings ++
        settings.contains ++ settings.words -> isBlankText phrase = true)
      (patterns : settings.patterns = []) (length : settings.maxChars = none) :
      HasFault index settings (.ruleWithoutTests index (trim settings.category))

end RuleSettings

/-- Whether a category stands in a routing table, blanks around names not counting. -/
def RoutingTable.names (routing : RoutingTable) (category : Text) : Bool :=
  routing.any fun entry => trim entry.1 == category

namespace RouterSettings

/-- The rules of which something holds, each with its place, as faults. -/
def rulesThat (settings : RouterSettings) (holds : RuleSettings -> Bool)
    (fault : Nat -> RuleSettings -> BuildFault) : List BuildFault :=
  (settings.rules.zipIdx.filter fun placed => holds placed.1).map fun placed =>
    fault placed.2 placed.1

variable [CharacterNames]

/-- Everything that is wrong with settings, in the order in which it is reported. -/
def faults (settings : RouterSettings) : List BuildFault :=
  (Tier.all.filter fun tier => isBlankText (settings.tiers.get tier)).map .tierWithoutModel ++
    faultIf (isBlankText settings.fallback) .emptyFallback ++
    faultIf (!settings.routing.names (trim settings.fallback))
      (.fallbackNotRouted (trim settings.fallback)) ++
    (settings.rules.zipIdx.flatMap fun placed => placed.1.faults placed.2) ++
    settings.rulesThat
      (fun rule => trim rule.category == trim settings.fallback && rule.hasTextTests)
      (fun index _ => .fallbackByText index (trim settings.fallback)) ++
    settings.rulesThat (fun rule => !settings.routing.names (trim rule.category))
      (fun index rule => .categoryNotRouted index (trim rule.category)) ++
    faultIf (isBlankText settings.autoModel) .emptyAutoModel

/-- What is wrong with settings. -/
inductive HasFault (settings : RouterSettings) : BuildFault -> Prop where
  | model {tier : Tier} (blank : isBlankText (settings.tiers.get tier) = true) :
      HasFault settings (.tierWithoutModel tier)
  | fallback (blank : isBlankText settings.fallback = true) : HasFault settings .emptyFallback
  | unrouted (missing : forall entry, entry ∈ settings.routing ->
      trim entry.1 ≠ trim settings.fallback) :
      HasFault settings (.fallbackNotRouted (trim settings.fallback))
  | rule {index : Nat} {rule : RuleSettings} {fault : BuildFault}
      (found : settings.rules[index]? = some rule) (faulty : rule.HasFault index fault) :
      HasFault settings fault
  | byText {index : Nat} {rule : RuleSettings} (found : settings.rules[index]? = some rule)
      (same : trim rule.category = trim settings.fallback) (texts : rule.hasTextTests = true) :
      HasFault settings (.fallbackByText index (trim settings.fallback))
  | routing {index : Nat} {rule : RuleSettings} (found : settings.rules[index]? = some rule)
      (missing : forall entry, entry ∈ settings.routing -> trim entry.1 ≠ trim rule.category) :
      HasFault settings (.categoryNotRouted index (trim rule.category))
  | autoModel (blank : isBlankText settings.autoModel = true) : HasFault settings .emptyAutoModel

end RouterSettings

/-! ## Rules -/

theorem phraseTest_eq_nil_iff {phrases : List Text} {prepare : Text -> Text}
    {test : List Text -> Test} :
    phraseTest phrases prepare test = [] ↔ phrases.all isBlankText = true := by
  have dropped : dropBlank phrases = [] ↔ phrases.all isBlankText = true := by simp [dropBlank]
  rw [phraseTest, ← dropped]
  cases dropBlank phrases <;> simp

namespace Rule

variable [CharacterNames]

/-- A rule has no tests exactly if its settings are bare. -/
theorem testsOf_eq_nil_iff {settings : RuleSettings} {patterns : List Pattern}
    (read : settings.patterns.map Pattern.read = patterns.map .ok) :
    testsOf settings patterns = [] ↔ settings.isBare = true := by
  have patternTest : (if patterns.isEmpty then [] else [Test.matchesOneOf patterns]) = [] ↔
      settings.patterns.isEmpty = true := by
    rw [List.isEmpty_iff (l := settings.patterns), ← List.map_eq_nil_iff (f := Pattern.read), read,
      List.map_eq_nil_iff]
    cases patterns <;> simp
  have lengthTest : settings.maxChars.toList.map Test.isShorterThan = [] ↔
      settings.maxChars.isNone = true := by
    cases settings.maxChars <;> simp
  simp only [testsOf, List.append_eq_nil_iff, phraseTest_eq_nil_iff, patternTest, lengthTest,
    RuleSettings.isBare, Bool.and_eq_true]

theorem fault?_readPatterns (index : Nat) (settings : RuleSettings) :
    fault? (readPatterns index (trim settings.category) settings.patterns) =
      (settings.patternFaults index).head? := by
  rw [readPatterns_eq_inOrder, fault?_inOrder, List.findSome?_map, RuleSettings.patternFaults,
    List.head?_filterMap]
  congr 1
  funext text
  rw [Function.comp_apply]
  cases Pattern.read text <;> rfl

theorem fault?_compile (index : Nat) (settings : RuleSettings) :
    fault? (compile index settings) = (settings.faults index).head? := by
  rw [RuleSettings.faults, List.head?_append, List.head?_append, head?_faultIf, head?_faultIf,
    ← fault?_readPatterns]
  unfold compile
  simp only [isEmpty_trim]
  cases isBlankText settings.category with
  | true => rfl
  | false =>
      cases read : readPatterns index (trim settings.category) settings.patterns with
      | error fault => rfl
      | ok patterns =>
          have bare := testsOf_eq_nil_iff (readPatterns_eq_ok_iff.mp read)
          rw [← List.isEmpty_iff, ← Bool.eq_iff_iff] at bare
          simp only [bare]
          cases settings.isBare <;> rfl

theorem fault?_compileFrom (settings : List RuleSettings) :
    fault? (compileFrom 0 settings) =
      (settings.zipIdx.flatMap fun placed => placed.1.faults placed.2).head? := by
  rw [compileFrom_eq_inOrder, fault?_inOrder, List.mapIdx_eq_zipIdx_map, List.findSome?_map,
    List.head?_flatMap]
  congr 1
  funext placed
  rw [← fault?_compile, ← Nat.zero_add placed.2]
  rfl

/-- What is looked at once more of compiled rules is seen of their settings as well: the place, the
category and whether there is more than a length. -/
theorem find?_compileFrom {settings : List RuleSettings} {rules : List Rule}
    (compiled : compileFrom 0 settings = .ok rules) (holds : Text -> Bool -> Bool)
    (fault : Nat -> Text -> BuildFault) :
    (rules.find? fun rule => holds rule.category !rule.lengthOnly).map
        (fun rule => fault rule.index rule.category) =
      (settings.zipIdx.find? fun placed =>
        holds (trim placed.1.category) placed.1.hasTextTests).map
          fun placed => fault placed.2 (trim placed.1.category) := by
  -- As far as these three things go, the rules and their settings are the same list.
  have views : rules.map (fun rule => (rule.index, rule.category, !rule.lengthOnly)) =
      settings.zipIdx.map fun placed =>
        (placed.2, trim placed.1.category, placed.1.hasTextTests) := by
    apply List.ext_getElem?
    intro place
    have here := compileFrom_zero_eq_ok_iff.mp compiled place
    rw [List.getElem?_map, List.getElem?_map, List.getElem?_zipIdx, Option.map_map]
    cases found : rules[place]? with
    | none =>
        rw [found, Option.map_none, Option.map_eq_none_iff] at here
        rw [here]
        rfl
    | some rule =>
        rw [found] at here
        rcases Option.map_eq_some_iff.mp here with ⟨original, there, made⟩
        rcases compile_eq_ok_iff.mp made with ⟨_, _, _, _, same⟩
        rw [there, same, Option.map_some, Option.map_some, Function.comp_apply, Nat.zero_add,
          Bool.not_not]
  have found := congrArg (fun views =>
    (views.find? fun view => holds view.2.1 view.2.2).map fun view => fault view.1 view.2.1) views
  simpa only [List.find?_map, Option.map_map, Function.comp_def] using found

end Rule

/-! ## Tables -/

theorem RuleList.fault?_compile [CharacterNames] (settings : List RuleSettings) (fallback : Text) :
    fault? (compile settings fallback) =
      (fault? (Rule.compileFrom 0 settings)).or
        ((settings.zipIdx.find? fun placed =>
          trim placed.1.category == fallback && placed.1.hasTextTests).map
            fun placed => .fallbackByText placed.2 fallback) := by
  unfold compile
  cases compiled : Rule.compileFrom 0 settings with
  | error fault => rfl
  | ok rules =>
      rw [← Rule.find?_compileFrom compiled (fun category texts => category == fallback && texts)
        fun index _ => .fallbackByText index fallback]
      simp only [fallbackByText?]
      cases rules.find? fun rule => rule.category == fallback && !rule.lengthOnly <;> rfl

namespace Tables

theorem lookup_setTier (table : RoutingTable) (category : Text) (tier : Tier) (name : Text) :
    (setTier table category tier).lookup name =
      if name == category then some tier else table.lookup name := by
  induction table with
  | nil =>
      rw [setTier, List.lookup_cons]
      cases name == category <;> rfl
  | cons entry table ih =>
      rcases entry with ⟨other, old⟩
      unfold setTier
      by_cases here : other = category
      · subst here
        rw [if_pos rfl, List.lookup_cons, List.lookup_cons]
        cases name == other <;> rfl
      · rw [if_neg here, List.lookup_cons, List.lookup_cons, ih]
        cases same : name == other with
        | false => rfl
        | true =>
            have different : (name == category) = false := by
              rw [eq_of_beq same]
              exact beq_eq_false_iff_ne.mpr here
            rw [different]
            rfl

/-- A trimmed table holds the names of the table. -/
theorem isRouted_trimRouting (routing : RoutingTable) (category : Text) :
    isRouted (trimRouting routing) category = routing.names category := by
  have folded : forall table : RoutingTable,
      isRouted (routing.foldl (fun table entry => setTier table (trim entry.1) entry.2) table)
        category = (isRouted table category || routing.names category) := by
    induction routing with
    | nil =>
        intro table
        rw [List.foldl_nil, RoutingTable.names, List.any_nil, Bool.or_false]
    | cons entry routing ih =>
        intro table
        rw [List.foldl_cons, ih, isRouted, isRouted, lookup_setTier, Bool.beq_comm]
        unfold RoutingTable.names
        rw [List.any_cons]
        cases trim entry.1 == category <;> simp
  exact folded []

variable [CharacterNames]

theorem fault?_finish {settings : RouterSettings} {fallback : Text} {rules : RuleList}
    (compiled : RuleList.compile settings.rules fallback = .ok rules) (models : TierModels) :
    fault? (finish settings models fallback (trimRouting settings.routing) rules) =
      ((settings.rules.zipIdx.find? fun placed =>
          !settings.routing.names (trim placed.1.category)).map
            fun placed => .categoryNotRouted placed.2 (trim placed.1.category)).or
        (if isBlankText settings.autoModel then some .emptyAutoModel else none) := by
  rw [← Rule.find?_compileFrom (RuleList.compile_eq_ok_iff.mp compiled).1
    (fun category _ => !settings.routing.names category) .categoryNotRouted]
  unfold finish
  simp only [isRouted_trimRouting, isEmpty_trim]
  cases rules.rules.find? fun rule => !settings.routing.names rule.category with
  | some rule => rfl
  | none => cases isBlankText settings.autoModel <;> rfl

/-- Building fails with the first fault there is. -/
theorem fault?_build (settings : RouterSettings) :
    fault? (build settings) = settings.faults.head? := by
  unfold build rulesOf RouterSettings.faults RouterSettings.rulesThat
  simp only [tierWithoutModel?_trimModels, isEmpty_trim, isRouted_trimRouting, List.head?_append,
    List.head?_map, List.head?_filter, head?_faultIf, ← Rule.fault?_compileFrom]
  -- Check by check: one that fails ends the building with the first fault of its part of the list.
  cases Tier.all.find? fun tier => isBlankText (settings.tiers.get tier) with
  | some tier => rfl
  | none =>
      cases isBlankText settings.fallback with
      | true => rfl
      | false =>
          cases settings.routing.names (trim settings.fallback) with
          | false => rfl
          | true =>
              simp only [Option.map_none, Bool.false_eq_true, Bool.not_true, if_false,
                Option.none_or, ← RuleList.fault?_compile]
              cases compiled : RuleList.compile settings.rules (trim settings.fallback) with
              | error fault => rfl
              | ok rules =>
                  simp only [fault?_finish compiled]
                  rfl

end Tables

/-! ## The list of faults -/

namespace RoutingTable

theorem names_eq_false_iff {routing : RoutingTable} {category : Text} :
    routing.names category = false ↔
      forall entry, entry ∈ routing -> trim entry.1 ≠ category := by
  unfold names
  rw [List.any_eq_false]
  simp only [beq_iff_eq, ne_eq]

end RoutingTable

namespace RuleSettings

theorem isBare_iff {settings : RuleSettings} :
    settings.isBare = true ↔
      (forall phrase, phrase ∈ settings.exact ++ settings.beginnings ++ settings.contains ++
        settings.words -> isBlankText phrase = true) ∧
      settings.patterns = [] ∧ settings.maxChars = none := by
  simp only [isBare, Bool.and_eq_true, List.all_eq_true, List.isEmpty_iff,
    Option.isNone_iff_eq_none, List.forall_mem_append, and_assoc]

variable [CharacterNames]

theorem mem_patternFaults_iff {index : Nat} {settings : RuleSettings} {fault : BuildFault}
    (regular : forall text, text ∈ settings.patterns -> ¬ Pattern.Overstrains text) :
    fault ∈ settings.patternFaults index ↔
      Exists fun text : Text => Exists fun problem : Pattern.Problem =>
        Exists fun position : Option Nat => text ∈ settings.patterns ∧
          Pattern.read text = .error (.malformed problem position) ∧
            fault = .badPattern index (trim settings.category) text problem position := by
  unfold patternFaults
  rw [List.mem_filterMap]
  constructor
  · rintro ⟨text, listed, same⟩
    rcases Option.map_eq_some_iff.mp same with ⟨why, refused, made⟩
    rw [fault?_eq_some_iff] at refused
    cases why with
    | malformed problem position =>
        exact ⟨text, problem, position, listed, refused, made.symm⟩
    | repetitionTooLong digits => exact absurd (Or.inl ⟨digits, refused⟩) (regular text listed)
    | repetitionTooLarge => exact absurd (Or.inr (Or.inl refused)) (regular text listed)
    | switchConflict => exact absurd (Or.inr (Or.inr refused)) (regular text listed)
  · rintro ⟨text, problem, position, listed, refused, same⟩
    refine ⟨text, listed, ?_⟩
    rw [refused, same]
    rfl

theorem patternFaults_eq_nil {index : Nat} {settings : RuleSettings}
    (readable : forall text, text ∈ settings.patterns -> Pattern.IsReadable text) :
    settings.patternFaults index = [] := by
  unfold patternFaults
  rw [List.filterMap_eq_nil_iff]
  intro text listed
  rcases readable text listed with ⟨pattern, read⟩
  rw [read]
  rfl

theorem mem_faults_iff {index : Nat} {settings : RuleSettings} {fault : BuildFault}
    (regular : forall text, text ∈ settings.patterns -> ¬ Pattern.Overstrains text) :
    fault ∈ settings.faults index ↔ settings.HasFault index fault := by
  unfold faults
  rw [List.mem_append, List.mem_append, mem_faultIf_iff, mem_faultIf_iff, isBare_iff,
    mem_patternFaults_iff regular]
  constructor
  · rintro ((⟨blank, same⟩ | ⟨text, problem, position, listed, refused, same⟩) |
      ⟨⟨phrases, patterns, length⟩, same⟩)
    · exact same ▸ .category blank
    · exact same ▸ .pattern listed refused
    · exact same ▸ .tests phrases patterns length
  · intro why
    cases why with
    | category blank => exact Or.inl (Or.inl ⟨blank, rfl⟩)
    | pattern listed refused => exact Or.inl (Or.inr ⟨_, _, _, listed, refused, rfl⟩)
    | tests phrases patterns length => exact Or.inr ⟨⟨phrases, patterns, length⟩, rfl⟩

end RuleSettings

namespace RouterSettings

variable {settings : RouterSettings}

theorem mem_rulesThat_iff {holds : RuleSettings -> Bool} {made : Nat -> RuleSettings -> BuildFault}
    {fault : BuildFault} :
    fault ∈ settings.rulesThat holds made ↔
      Exists fun index : Nat => Exists fun rule : RuleSettings =>
        settings.rules[index]? = some rule ∧ holds rule = true ∧ fault = made index rule := by
  unfold rulesThat
  simp only [List.mem_map, List.mem_filter, Prod.exists, List.mem_zipIdx_iff_getElem?]
  constructor
  · rintro ⟨rule, index, ⟨found, here⟩, same⟩
    exact ⟨index, rule, found, here, same.symm⟩
  · rintro ⟨index, rule, found, here, same⟩
    exact ⟨rule, index, ⟨found, here⟩, same.symm⟩

variable [CharacterNames]

theorem mem_ruleFaults_iff {fault : BuildFault} :
    (fault ∈ settings.rules.zipIdx.flatMap fun placed => placed.1.faults placed.2) ↔
      Exists fun index : Nat => Exists fun rule : RuleSettings =>
        settings.rules[index]? = some rule ∧ fault ∈ rule.faults index := by
  simp only [List.mem_flatMap, Prod.exists, List.mem_zipIdx_iff_getElem?]
  exact exists_comm

/-- The faults in the list are those that settings have. -/
theorem mem_faults_iff
    (regular : forall rule, rule ∈ settings.rules ->
      forall text, text ∈ rule.patterns -> ¬ Pattern.Overstrains text) {fault : BuildFault} :
    fault ∈ settings.faults ↔ settings.HasFault fault := by
  have ofRule : forall (index : Nat) (rule : RuleSettings), settings.rules[index]? = some rule ->
      (fault ∈ rule.faults index ↔ rule.HasFault index fault) := by
    intro index rule found
    exact RuleSettings.mem_faults_iff (regular rule (List.mem_of_getElem? found))
  unfold faults
  simp only [List.mem_append, mem_faultIf_iff, mem_rulesThat_iff, mem_ruleFaults_iff, List.mem_map,
    List.mem_filter, Bool.and_eq_true, beq_iff_eq, Bool.not_eq_true',
    RoutingTable.names_eq_false_iff]
  constructor
  · rintro ((((((⟨tier, ⟨_, blank⟩, same⟩ | ⟨blank, same⟩) | ⟨missing, same⟩) |
      ⟨index, rule, found, faulty⟩) | ⟨index, rule, found, ⟨named, texts⟩, same⟩) |
      ⟨index, rule, found, missing, same⟩) | ⟨blank, same⟩)
    · exact same ▸ .model blank
    · exact same ▸ .fallback blank
    · exact same ▸ .unrouted missing
    · exact .rule found ((ofRule index rule found).mp faulty)
    · exact same ▸ .byText found named texts
    · exact same ▸ .routing found missing
    · exact same ▸ .autoModel blank
  · intro why
    cases why with
    | @model tier blank =>
        refine Or.inl (Or.inl (Or.inl (Or.inl (Or.inl (Or.inl ⟨tier, ⟨?_, blank⟩, rfl⟩)))))
        cases tier <;> simp [Tier.all]
    | fallback blank => exact Or.inl (Or.inl (Or.inl (Or.inl (Or.inl (Or.inr ⟨blank, rfl⟩)))))
    | unrouted missing => exact Or.inl (Or.inl (Or.inl (Or.inl (Or.inr ⟨missing, rfl⟩))))
    | rule found faulty =>
        exact Or.inl (Or.inl (Or.inl (Or.inr ⟨_, _, found, (ofRule _ _ found).mpr faulty⟩)))
    | byText found named texts =>
        exact Or.inl (Or.inl (Or.inr ⟨_, _, found, ⟨named, texts⟩, rfl⟩))
    | routing found missing => exact Or.inl (Or.inr ⟨_, _, found, missing, rfl⟩)
    | autoModel blank => exact Or.inr ⟨blank, rfl⟩

theorem HasFault.isOfSettings {fault : BuildFault} (why : settings.HasFault fault) :
    fault.isOfSettings = true := by
  cases why with
  | rule found faulty => cases faulty <;> rfl
  | _ => rfl

end RouterSettings

namespace Tables

/-- If every pattern can be read or is malformed, building fails exactly if something is wrong with
the settings, always with a fault of the settings as such, and with the first one of the list. -/
theorem build_fails_with_first_fault [CharacterNames] {settings : RouterSettings}
    (regular : forall rule, rule ∈ settings.rules ->
      forall text, text ∈ rule.patterns -> ¬ Pattern.Overstrains text) :
    (forall fault : BuildFault, build settings = .error fault ↔
      settings.faults.head? = some fault) ∧
    (forall fault : BuildFault, fault ∈ settings.faults ↔ settings.HasFault fault) ∧
    (forall fault : BuildFault, settings.HasFault fault -> fault.isOfSettings = true) ∧
    ((Exists fun tables : Tables => build settings = .ok tables) ↔
      forall fault : BuildFault, ¬ settings.HasFault fault) := by
  have listed : forall fault : BuildFault, fault ∈ settings.faults ↔ settings.HasFault fault :=
    fun _ => RouterSettings.mem_faults_iff regular
  refine ⟨?_, listed, fun fault why => why.isOfSettings, ?_⟩
  · intro fault
    rw [← fault?_eq_some_iff, fault?_build]
  · rw [← fault?_eq_none_iff, fault?_build, List.head?_eq_none_iff, List.eq_nil_iff_forall_not_mem]
    simp only [listed]

/-- Settings with a fault in each of their three rules, and without a name that asks for routing. -/
def faultySettings : RouterSettings :=
  { autoModel := [' ']
    fallback := ['c']
    tiers := ⟨['l'], ['m'], ['t']⟩
    routing := [(['c'], .low), (['d', ' '], .top)]
    rules :=
      [{ category := ['c'], exact := [['x']] },
        { category := [' ', 'd'], patterns := [['y'], ['(']] },
        { category := ['e'], words := [[' ']] }] }

/-- The pattern of the second rule is reported: that the first rule assigns the fallback category by
a phrase is looked at only when all rules are compiled. -/
theorem build_fails_with_first_fault_pattern :
    build faultySettings = .error (.badPattern 1 ['d'] ['('] .unterminatedGroup (some 0)) ∧
      faultySettings.HasFault (.fallbackByText 0 ['c']) ∧
      faultySettings.HasFault (.ruleWithoutTests 2 ['e']) ∧
      faultySettings.HasFault .emptyAutoModel := by
  have refused : Pattern.read ['('] = .error (.malformed .unterminatedGroup (some 0)) := rfl
  have accepted : Pattern.read ['y'] = .ok _ := rfl
  have regular : forall rule, rule ∈ faultySettings.rules ->
      forall text, text ∈ rule.patterns -> ¬ Pattern.Overstrains text := by
    simp [faultySettings, Pattern.Overstrains, refused, accepted]
  have law := build_fails_with_first_fault regular
  have listed : faultySettings.faults =
      [.badPattern 1 ['d'] ['('] .unterminatedGroup (some 0), .ruleWithoutTests 2 ['e'],
        .fallbackByText 0 ['c'], .categoryNotRouted 2 ['e'], .emptyAutoModel] := rfl
  refine ⟨(law.1 _).mpr rfl, (law.2.1 _).mp ?_, (law.2.1 _).mp ?_, (law.2.1 _).mp ?_⟩
  · simp [listed]
  · simp [listed]
  · simp [listed]

end Tables

/-! ## The built-in settings -/

set_option maxRecDepth 4000 in
/-- The patterns of the built-in rules behind the first one can be read. -/
theorem isOk_read_builtin [CharacterNames] :
    (builtinRules.tail.flatMap (·.patterns)).all (fun text => (Pattern.read text).isOk) = true := by
  cbv

theorem isReadable_builtin [CharacterNames] {rule : RuleSettings} (member : rule ∈ builtinRules)
    {text : Text} (listed : text ∈ rule.patterns) : Pattern.IsReadable text := by
  have placed : rule ∈ heartbeats :: builtinRules.tail := member
  rcases List.mem_cons.mp placed with same | later
  · have read : Pattern.read text ∈ heartbeatPatterns.map .ok := by
      rw [← read_heartbeats, ← same]
      exact List.mem_map_of_mem listed
    rcases List.mem_map.mp read with ⟨pattern, _, equal⟩
    exact ⟨pattern, equal.symm⟩
  · have read := List.all_eq_true.mp isOk_read_builtin text
      (List.mem_flatMap.mpr ⟨rule, later, listed⟩)
    cases made : Pattern.read text with
    | ok pattern => exact ⟨pattern, made⟩
    | error fault =>
        rw [made] at read
        cases read

/-- Nothing is wrong with the built-in settings. -/
theorem RouterSettings.faults_builtin [CharacterNames] : ({} : RouterSettings).faults = [] := by
  have ruled : (builtinRules.zipIdx.flatMap fun placed => placed.1.faults placed.2) = [] := by
    rw [List.flatMap_eq_nil_iff]
    intro placed member
    have sound : forall rule, rule ∈ builtinRules ->
        isBlankText rule.category = false ∧ rule.isBare = false := by decide +kernel
    have listed := List.mem_of_getElem? (List.mem_zipIdx_iff_getElem?.mp member)
    rw [RuleSettings.faults, RuleSettings.patternFaults_eq_nil fun _ => isReadable_builtin listed,
      (sound _ listed).1, (sound _ listed).2]
    rfl
  rw [RouterSettings.faults, ruled]
  decide +kernel

/-- The built-in settings can be built. -/
theorem Tables.exists_build_builtin [CharacterNames] :
    Exists fun tables : Tables => build {} = .ok tables := by
  rw [← fault?_eq_none_iff, fault?_build, RouterSettings.faults_builtin]
  rfl

end Switchboard
