import Switchboard.Proofs.Values
import Switchboard.Settings.Check

namespace Switchboard

open Text

/-!
# Settings that come out of a check

A setting may be written in several ways: a truth value as a word or a number, a length as a text or
a number with a fraction of zeros, a model alone or as a field, and most of it not at all.  A check
takes each of them to one value within its bounds, and this value, written out in full, passes the
same check as it is.

Both halves of this are said of one check at a time (`Normalizes`) and carried from the parts of a
group of settings to the whole.
-/

/-- A check whose values are within bounds, and which takes each value within bounds that is written
out to that very value. -/
structure Normalizes (check : Datum -> Checked α) (write : α -> Datum) (within : α -> Prop) :
    Prop where
  bounds : forall {datum : Datum} {value : α}, check datum = .ok value -> within value
  fixes : forall {value : α}, within value -> check (write value) = .ok value

/-! ## Checks that are put together -/

namespace Checked

theorem within_eq_ok_iff {step : Step} {checked : Checked α} {value : α} :
    within step checked = .ok value ↔ checked = .ok value := by
  cases checked <;> simp [within]

theorem given_eq_ok_iff {argument : Checked α} {function : Checked (α -> β)} {result : β} :
    given argument function = .ok result ↔
      Exists fun f : α -> β => Exists fun value : α =>
        function = .ok f ∧ argument = .ok value ∧ f value = result := by
  cases function <;> cases argument <;> simp [given]

theorem besides_eq_ok_iff {others : List Problem} {checked : Checked α} {value : α} :
    besides others checked = .ok value ↔ checked = .ok value ∧ others = [] := by
  cases checked <;> cases others <;> simp [besides]

theorem bounded_eq_ok_iff {value result : α} {above below : Bool} :
    bounded value above below = .ok result ↔ above = false ∧ below = false ∧ value = result := by
  cases above <;> cases below <;> simp [bounded, refuse]

theorem each_eq_ok_iff {check : Datum -> Checked α} {position : Nat} {items : List Datum}
    {values : List α} :
    each check position items = .ok values ↔
      List.Forall₂ (fun item value => check item = .ok value) items values := by
  induction items generalizing position values with
  | nil => cases values <;> simp [each]
  | cons item items inductionHypothesis =>
      rw [each]
      simp only [given_eq_ok_iff, within_eq_ok_iff, inductionHypothesis]
      cases values <;> simp

end Checked

open Checked

section
variable {check : Datum -> Checked α} {write : α -> Datum} {within : α -> Prop}

theorem Normalizes.checkList (normal : Normalizes check write within) :
    Normalizes (Datum.checkList check) (fun values => .list (values.map write))
      (fun values => forall value, value ∈ values -> within value) where
  bounds := by
    have members : forall {items : List Datum} {values : List α},
        each check 0 items = .ok values -> forall value, value ∈ values -> within value := by
      intro items values checked
      have both := each_eq_ok_iff.mp checked
      clear checked
      induction both with
      | nil => exact fun value impossible => absurd impossible List.not_mem_nil
      | cons first _ inductionHypothesis =>
          exact List.forall_mem_cons.mpr ⟨normal.bounds first, inductionHypothesis⟩
    intro datum values checked
    cases datum with
    | list items => exact members checked
    | set items => exact members checked
    | pair first second => exact members checked
    | _ => cases checked
  fixes := by
    intro values sound
    apply each_eq_ok_iff.mpr
    rw [List.forall₂_map_left_iff, List.forall₂_same]
    exact fun value member => normal.fixes (sound value member)

/-- What a field holds, be it given or left out, is within bounds. -/
theorem Normalizes.get (normal : Normalizes check write within) {entries : List (Datum × Datum)}
    {name : String} {builtin value : α} (sound : within builtin)
    (found : Fields.get entries name builtin check = .ok value) : within value := by
  rw [Fields.get] at found
  split at found
  · injection found with same
    exact same ▸ sound
  · exact normal.bounds (within_eq_ok_iff.mp found)

/-- A field that is written out is found as it is. -/
theorem Normalizes.get_written (normal : Normalizes check write within)
    {entries : List (Datum × Datum)} {name : String} {builtin value : α} (sound : within value)
    (held : Datum.field? (ofString name) entries = some (write value)) :
    Fields.get entries name builtin check = .ok value := by
  rw [Fields.get, held]
  exact within_eq_ok_iff.mpr (normal.fixes sound)

end

/-! ## Single values -/

/-- An entry of a mapping under a name. -/
def Fields.entry (name : String) (value : Datum) : Datum × Datum := (.text (ofString name), value)

theorem normalizes_text : Normalizes Datum.checkText Datum.text fun _ => True where
  bounds _ := trivial
  fixes _ := rfl

theorem normalizes_truth : Normalizes Datum.checkTruth Datum.bool fun _ => True where
  bounds _ := trivial
  fixes _ := rfl

/-- Texts written out as a list. -/
def writeTexts (texts : List Text) : Datum := .list (texts.map .text)

theorem normalizes_texts : Normalizes Datum.checkTexts writeTexts fun _ => True where
  bounds _ := trivial
  fixes _ := normalizes_text.checkList.fixes fun _ _ => trivial

namespace Tier

/-- The model of a tier written out. -/
def writeModel (model : Text) : Datum := .map [Fields.entry "model" (.text model)]

theorem normalizes_model : Normalizes checkModel writeModel fun _ => True where
  bounds _ := trivial
  fixes _ := rfl

theorem check_name (tier : Tier) : check (.text tier.name) = .ok tier := by
  cases tier <;> rfl

end Tier

theorem TagPosition.normalizes :
    Normalizes check (fun position => .text position.name) fun _ => True where
  bounds _ := trivial
  fixes {position} _ := by cases position <;> rfl

namespace RoutingTable

/-- A routing table written out. -/
def write (table : RoutingTable) : Datum :=
  .map (table.map fun entry => (.text entry.1, .text entry.2.name))

theorem normalizes : Normalizes check write fun _ => True where
  bounds _ := trivial
  fixes {table} _ := by
    rw [write, check]
    induction table with
    | nil => rfl
    | cons entry table inductionHypothesis =>
        have first : checkEntry (.text entry.1, .text entry.2.name) = .ok entry := by
          rw [checkEntry, within_eq_ok_iff, Tier.check_name]
          rfl
        rw [List.map_cons, checkEntries, first, inductionHypothesis]
        rfl

end RoutingTable

namespace RuleSettings

/-- A length that a rule may ask about. -/
def IsLength (length : Option Nat) : Prop :=
  forall count, length = some count -> 1 <= count ∧ count <= 10000

/-- A length written out; no length is null. -/
def writeLength : Option Nat -> Datum
  | none => .null
  | some count => .int count

theorem normalizes_length : Normalizes checkLength writeLength IsLength where
  bounds := by
    intro datum length checked count held
    rw [checkLength.eq_def] at checked
    split at checked
    · injection checked with same
      rw [held] at same
      cases same
    · split at checked
      · cases checked
      · rcases bounded_eq_ok_iff.mp checked with ⟨above, below, same⟩
        rw [greatestLength, decide_eq_false_iff_not] at above
        rw [decide_eq_false_iff_not] at below
        rw [held] at same
        injection same with same
        omega
  fixes := by
    intro length sound
    cases length with
    | none => rfl
    | some count =>
        have bounds := sound count rfl
        apply bounded_eq_ok_iff.mpr
        rw [greatestLength, decide_eq_false_iff_not, decide_eq_false_iff_not]
        exact ⟨by omega, by omega, rfl⟩

end RuleSettings

/-! ## Groups of settings -/

namespace TagSettings

/-- The settings of tags written out. -/
def write (settings : TagSettings) : Datum :=
  .map [Fields.entry "enabled" (.bool settings.enabled),
    Fields.entry "position" (.text settings.position.name)]

theorem check_eq_ok_iff {value : Datum} {settings : TagSettings} :
    check value = .ok settings ↔ Exists fun entries => value.entries = .ok entries ∧
      Fields.get entries "enabled" true Datum.checkTruth = .ok settings.enabled ∧
      Fields.get entries "position" .anywhere TagPosition.check = .ok settings.position := by
  rw [check]
  cases value.entries with
  | error problems => simp
  | ok entries =>
      cases settings
      simp [given_eq_ok_iff, -Bool.exists_bool]

theorem normalizes : Normalizes check write fun _ => True where
  bounds _ := trivial
  fixes _ := check_eq_ok_iff.mpr ⟨_, rfl,
    normalizes_truth.get_written trivial rfl, TagPosition.normalizes.get_written trivial rfl⟩

end TagSettings

namespace TierModels

/-- The models of the tiers written out. -/
def write (models : TierModels) : Datum :=
  .map [Fields.entry "low" (Tier.writeModel models.low),
    Fields.entry "mid" (Tier.writeModel models.mid), Fields.entry "top" (Tier.writeModel models.top)]

theorem check_eq_ok_iff {value : Datum} {models : TierModels} :
    check value = .ok models ↔ Exists fun entries => value.entries = .ok entries ∧
      Fields.get entries "low" ({} : TierModels).low Tier.checkModel = .ok models.low ∧
      Fields.get entries "mid" ({} : TierModels).mid Tier.checkModel = .ok models.mid ∧
      Fields.get entries "top" ({} : TierModels).top Tier.checkModel = .ok models.top ∧
      Fields.unknown ["low", "mid", "top"] entries = [] := by
  rw [check]
  cases value.entries with
  | error problems => simp
  | ok entries =>
      cases models
      simp [given_eq_ok_iff, besides_eq_ok_iff, and_assoc]

theorem normalizes : Normalizes check write fun _ => True where
  bounds _ := trivial
  fixes _ := check_eq_ok_iff.mpr ⟨_, rfl,
    Tier.normalizes_model.get_written trivial rfl, Tier.normalizes_model.get_written trivial rfl,
    Tier.normalizes_model.get_written trivial rfl, rfl⟩

end TierModels

namespace RuleSettings

/-- A rule written out. -/
def write (rule : RuleSettings) : Datum :=
  .map [Fields.entry "category" (.text rule.category),
    Fields.entry "exact" (writeTexts rule.exact),
    Fields.entry "prefix" (writeTexts rule.beginnings),
    Fields.entry "contains" (writeTexts rule.contains),
    Fields.entry "words" (writeTexts rule.words),
    Fields.entry "regex" (writeTexts rule.patterns),
    Fields.entry "max_chars" (writeLength rule.maxChars)]

theorem check_eq_ok_iff {value : Datum} {rule : RuleSettings} :
    check value = .ok rule ↔ Exists fun entries => value.entries = .ok entries ∧
      Fields.need entries "category" Datum.checkText = .ok rule.category ∧
      Fields.get entries "exact" [] Datum.checkTexts = .ok rule.exact ∧
      Fields.get entries "prefix" [] Datum.checkTexts = .ok rule.beginnings ∧
      Fields.get entries "contains" [] Datum.checkTexts = .ok rule.contains ∧
      Fields.get entries "words" [] Datum.checkTexts = .ok rule.words ∧
      Fields.get entries "regex" [] Datum.checkTexts = .ok rule.patterns ∧
      Fields.get entries "max_chars" none checkLength = .ok rule.maxChars ∧
      Fields.unknown fields entries = [] := by
  rw [check]
  cases value.entries with
  | error problems => simp
  | ok entries =>
      cases rule
      simp [given_eq_ok_iff, besides_eq_ok_iff, and_assoc]

theorem normalizes : Normalizes check write fun rule => IsLength rule.maxChars where
  bounds checked := by
    rcases check_eq_ok_iff.mp checked with ⟨_, _, _, _, _, _, _, _, length, _⟩
    refine normalizes_length.get ?_ length
    intro count impossible
    cases impossible
  fixes {rule} sound := check_eq_ok_iff.mpr ⟨_, rfl, rfl,
    normalizes_texts.get_written trivial rfl, normalizes_texts.get_written trivial rfl,
    normalizes_texts.get_written trivial rfl, normalizes_texts.get_written trivial rfl,
    normalizes_texts.get_written trivial rfl, normalizes_length.get_written sound rfl, rfl⟩

theorem isLength_builtin : forall rule, rule ∈ builtinRules -> IsLength rule.maxChars := by
  have each : (builtinRules.all fun rule =>
      rule.maxChars.all fun count => 1 <= count && count <= 10000) = true := by
    decide
  intro rule member count held
  have bounds := List.all_eq_true.mp each rule member
  rw [held] at bounds
  simpa using bounds

end RuleSettings

namespace RouterSettings

/-- The settings of the router written out. -/
def write (settings : RouterSettings) : Datum :=
  .map [Fields.entry "auto_model_name" (.text settings.autoModel),
    Fields.entry "fallback_category" (.text settings.fallback),
    Fields.entry "override" settings.tags.write, Fields.entry "tiers" settings.tiers.write,
    Fields.entry "routing" (RoutingTable.write settings.routing),
    Fields.entry "rules" (.list (settings.rules.map RuleSettings.write))]

theorem check_eq_ok_iff {value : Datum} {settings : RouterSettings} :
    check value = .ok settings ↔ Exists fun entries => value.entries = .ok entries ∧
      Fields.get entries "auto_model_name" (ofString "auto") Datum.checkText =
        .ok settings.autoModel ∧
      Fields.get entries "fallback_category" (ofString "simple-chat") Datum.checkText =
        .ok settings.fallback ∧
      Fields.get entries "override" {} TagSettings.check = .ok settings.tags ∧
      Fields.get entries "tiers" {} TierModels.check = .ok settings.tiers ∧
      Fields.get entries "routing" builtinRouting RoutingTable.check = .ok settings.routing ∧
      Fields.get entries "rules" builtinRules (Datum.checkList RuleSettings.check) =
        .ok settings.rules := by
  rw [check]
  cases value.entries with
  | error problems => simp
  | ok entries =>
      cases settings
      simp [given_eq_ok_iff, and_assoc]

theorem normalizes : Normalizes check write fun settings =>
    forall rule, rule ∈ settings.rules -> RuleSettings.IsLength rule.maxChars where
  bounds checked := by
    rcases check_eq_ok_iff.mp checked with ⟨_, _, _, _, _, _, _, rules⟩
    exact RuleSettings.normalizes.checkList.get RuleSettings.isLength_builtin rules
  fixes sound := check_eq_ok_iff.mpr ⟨_, rfl,
    normalizes_text.get_written trivial rfl, normalizes_text.get_written trivial rfl,
    TagSettings.normalizes.get_written trivial rfl, TierModels.normalizes.get_written trivial rfl,
    RoutingTable.normalizes.get_written trivial rfl,
    RuleSettings.normalizes.checkList.get_written sound rfl⟩

end RouterSettings

namespace ReloadSettings

/-- A number of seconds from a tenth to an hour, a tenth being the nearest number to it, which is a
little more. -/
def IsInterval (interval : Binary) : Prop :=
  Exists fun seconds : ℚ => interval.value? = some seconds ∧
    3602879701896397 / 36028797018963968 <= seconds ∧ seconds <= 3600

theorem value?_shortestInterval :
    shortestInterval.value? = some (3602879701896397 / 36028797018963968) := by
  have number : shortestInterval = .finite false 7205759403792794 (-56) := by decide +kernel
  rw [number, Binary.value?]
  norm_num

theorem value?_longestInterval : longestInterval.value? = some 3600 := by
  have number : longestInterval = .finite false 7916483719987200 (-41) := by decide +kernel
  rw [number, Binary.value?]
  norm_num

theorem isInterval_iff (interval : Binary) :
    IsInterval interval ↔
      shortestInterval.atMost interval = true ∧ interval.atMost longestInterval = true :=
  (Binary.between_iff value?_shortestInterval value?_longestInterval).symm

theorem normalizes_interval : Normalizes checkInterval Datum.float IsInterval where
  bounds := by
    intro datum interval checked
    rw [checkInterval] at checked
    split at checked
    · cases checked
    · rcases bounded_eq_ok_iff.mp checked with ⟨above, below, same⟩
      rw [isInterval_iff, ← same]
      simpa using And.intro below above
  fixes := by
    intro interval sound
    rcases (isInterval_iff interval).mp sound with ⟨above, below⟩
    apply bounded_eq_ok_iff.mpr
    simp [above, below]

/-- The settings of reloading written out. -/
def write (settings : ReloadSettings) : Datum :=
  .map [Fields.entry "enabled" (.bool settings.enabled),
    Fields.entry "interval_seconds" (.float settings.interval)]

theorem check_eq_ok_iff {value : Datum} {settings : ReloadSettings} :
    check value = .ok settings ↔ Exists fun entries => value.entries = .ok entries ∧
      Fields.get entries "enabled" false Datum.checkTruth = .ok settings.enabled ∧
      Fields.get entries "interval_seconds" ({} : ReloadSettings).interval checkInterval =
        .ok settings.interval := by
  rw [check]
  cases value.entries with
  | error problems => simp
  | ok entries =>
      cases settings
      simp [given_eq_ok_iff, -Bool.exists_bool]

theorem isInterval_builtin : IsInterval ({} : ReloadSettings).interval := by
  rw [isInterval_iff]
  decide +kernel

theorem normalizes : Normalizes check write fun settings => IsInterval settings.interval where
  bounds checked := by
    rcases check_eq_ok_iff.mp checked with ⟨_, _, _, interval⟩
    exact normalizes_interval.get isInterval_builtin interval
  fixes sound := check_eq_ok_iff.mpr ⟨_, rfl,
    normalizes_truth.get_written trivial rfl, normalizes_interval.get_written sound rfl⟩

end ReloadSettings

namespace Settings

/-- All settings written out in full. -/
def write (settings : Settings) : Datum :=
  .map [Fields.entry "log_level" (.text settings.logLevel),
    Fields.entry "reload" settings.reload.write, Fields.entry "router" settings.router.write]

theorem check_eq_ok_iff {value : Datum} {settings : Settings} :
    check value = .ok settings ↔ Exists fun entries => value.entries = .ok entries ∧
      Fields.get entries "log_level" (ofString "INFO") Datum.checkText = .ok settings.logLevel ∧
      Fields.get entries "reload" {} ReloadSettings.check = .ok settings.reload ∧
      Fields.get entries "router" {} RouterSettings.check = .ok settings.router := by
  rw [check]
  cases value.entries with
  | error problems => simp
  | ok entries =>
      cases settings
      simp [given_eq_ok_iff]

/-- Settings as they may come out of a check: tiers and positions have their names, a rule asks about
one to ten thousand characters if it asks about a length, and the interval is a number of seconds
from a tenth to an hour. -/
structure IsWithinBounds (settings : Settings) : Prop where
  tiers : forall entry, entry ∈ settings.router.routing ->
    entry.2.name ∈ [ofString "low", ofString "mid", ofString "top"]
  position : settings.router.tags.position.name ∈ [ofString "anywhere", ofString "prefix"]
  lengths : forall rule, rule ∈ settings.router.rules -> RuleSettings.IsLength rule.maxChars
  interval : ReloadSettings.IsInterval settings.reload.interval

theorem normalizes : Normalizes check write IsWithinBounds where
  bounds := by
    intro datum settings checked
    rcases check_eq_ok_iff.mp checked with ⟨_, _, _, reload, router⟩
    refine ⟨?_, ?_, ?_, ?_⟩
    · intro entry _
      cases entry.2 <;> decide
    · cases settings.router.tags.position <;> decide
    · exact RouterSettings.normalizes.get RuleSettings.isLength_builtin router
    · exact ReloadSettings.normalizes.get ReloadSettings.isInterval_builtin reload
  fixes sound := check_eq_ok_iff.mpr ⟨_, rfl, normalizes_text.get_written trivial rfl,
    ReloadSettings.normalizes.get_written sound.interval rfl,
    RouterSettings.normalizes.get_written sound.lengths rfl⟩

/-- The settings that come out of a check, whatever document went in, are those within bounds, and
each of them written out in full passes the check once more and comes out as it is. -/
theorem checked_settings_are_normal (settings : Settings) :
    ((Exists fun value : Datum => check value = .ok settings) ↔ settings.IsWithinBounds) ∧
      (settings.IsWithinBounds ↔ check settings.write = .ok settings) ∧
      (settings.IsWithinBounds -> Exists fun seconds : ℚ =>
        settings.reload.interval.value? = some seconds ∧ 1 / 10 <= seconds ∧ seconds <= 3600) := by
  refine ⟨?_, ⟨normalizes.fixes, normalizes.bounds⟩, ?_⟩
  · constructor
    · rintro ⟨value, checked⟩
      exact normalizes.bounds checked
    · exact fun sound => ⟨settings.write, normalizes.fixes sound⟩
  · intro sound
    rcases sound.interval with ⟨seconds, same, least, greatest⟩
    exact ⟨seconds, same, le_trans (by norm_num) least, greatest⟩

/-- Settings written in other ways than they are written out: a word for a truth value, texts for
numbers, a model alone, a field that is not known, and most of them left out. -/
def shorthand : Datum :=
  .map [Fields.entry "reload" (.map [Fields.entry "enabled" (.text (ofString "Yes")),
      Fields.entry "interval_seconds" (.text (ofString " 1e1"))]),
    Fields.entry "router" (.map [Fields.entry "tiers" (.map [Fields.entry "low" (.text ['l'])]),
      Fields.entry "routing" (.map [Fields.entry "c" (.text (ofString "low"))]),
      Fields.entry "rules" (.list [.map [Fields.entry "category" (.text ['c']),
        Fields.entry "max_chars" (.text (ofString "40.0"))]])]),
    Fields.entry "comment" .null]

/-- They come out as settings that are written in another way and stay what they are. -/
theorem checked_settings_are_normal_shorthand :
    Exists fun settings : Settings => check shorthand = .ok settings ∧
      settings.reload.enabled = true ∧ settings.reload.interval = .finite false (5 <<< 50) (-49) ∧
      settings.router.rules = [{ category := ['c'], maxChars := some 40 }] ∧
      settings.IsWithinBounds ∧ check settings.write = .ok settings := by
  have checked : check shorthand = .ok _ := rfl
  have sound := (checked_settings_are_normal _).1.mp ⟨shorthand, checked⟩
  exact ⟨_, checked, rfl, by decide +kernel, rfl, sound, (checked_settings_are_normal _).2.1.mp sound⟩

end Settings

end Switchboard
