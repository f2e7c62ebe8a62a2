import Switchboard.Number.Numeral
import Switchboard.Settings.Basic
import Switchboard.Settings.Problem
import Switchboard.Text.Case
import Switchboard.Text.Utf8

namespace Switchboard

/-!
Checking a document against the settings.

Each part of the settings is read by a function of its own, which gives the setting or all that is
wrong with it.  Texts are taken as they are; truth values and numbers may also be written as
texts.  Bytes are read as text wherever a text is.  A tier may be written as the name of its model
alone.  What is left out has its built-in value.  Fields that are not known are refused for rules
and tiers and passed over elsewhere.
-/

/-- A setting, or all that is wrong with it. -/
abbrev Checked (α : Type) := Except (List Problem) α

namespace Checked

/-- Refusal of a part as a whole. -/
def refuse (kind : ProblemKind) : Checked α := .error [⟨[], kind⟩]

/-- A check of a part as a check of the whole. -/
def within (step : Step) : Checked α -> Checked α
  | .ok value => .ok value
  | .error problems => .error (problems.map fun p => { p with path := step :: p.path })

/-- A function given its next argument; the problems of both are collected. -/
def given (argument : Checked α) (function : Checked (α -> β)) : Checked β :=
  match function, argument with
  | .ok f, .ok value => .ok (f value)
  | .error problems, .ok _ => .error problems
  | .ok _, .error problems => .error problems
  | .error problems, .error more => .error (problems ++ more)

/-- A value that is kept if nothing else is wrong. -/
def besides (others : List Problem) (checked : Checked α) : Checked α :=
  match checked, others with
  | .ok value, [] => .ok value
  | .ok _, problem :: problems => .error (problem :: problems)
  | .error problems, others => .error (problems ++ others)

/-- A value that has to lie within bounds; the upper one is looked at first. -/
def bounded (value : α) (aboveUpper belowLower : Bool) : Checked α :=
  if aboveUpper then refuse .tooLarge
  else if belowLower then refuse .tooSmall
  else .ok value

/-- All parts of a list, the first one at a given position. -/
def each (check : Datum -> Checked α) : Nat -> List Datum -> Checked (List α)
  | _, [] => .ok []
  | position, item :: items =>
      .ok List.cons
        |> given (within (.index position) (check item))
        |> given (each check (position + 1) items)

end Checked

namespace Datum

/-- A text. -/
def checkText : Datum -> Checked Text
  | .text value => .ok value
  | .bytes value =>
      match Text.decodeUtf8 value with
      | .ok value => .ok value
      | .error _ => Checked.refuse .unicodeWanted
  | _ => Checked.refuse .textWanted

/-- The text of a value that is a text or bytes. -/
def asText? : Datum -> Option Text
  | .text value => some value
  | .bytes value => (Text.decodeUtf8 value).toOption
  | _ => none

/-- The words for true and for false, in any letter case of ASCII. -/
def truthOf? (word : Text) : Option Bool :=
  let word := Numeral.asciiLower word
  if ["1", "on", "t", "true", "y", "yes"].any fun s => Text.ofString s == word then some true
  else if ["0", "off", "f", "false", "n", "no"].any fun s => Text.ofString s == word then
    some false
  else none

/-- The truth value that a number stands for. -/
def checkTruthNumber (value : Int) : Checked Bool :=
  if value = 0 then .ok false
  else if value = 1 then .ok true
  else Checked.refuse .truthUnreadable

/-- A truth value. -/
def checkTruth : Datum -> Checked Bool
  | .bool value => .ok value
  | .int value =>
      if (Binary.ofInt value).isFinite then checkTruthNumber value
      else Checked.refuse .truthWanted
  | .float value =>
      match value.toInt? with
      | some value => checkTruthNumber value
      | none => Checked.refuse .truthWanted
  | value =>
      match value.asText? with
      | none => Checked.refuse .truthWanted
      | some word =>
          match truthOf? word with
          | some value => .ok value
          | none => Checked.refuse .truthUnreadable

/-- A whole number. -/
def checkWhole : Datum -> Checked Int
  | .bool value => .ok (if value then 1 else 0)
  | .int value => .ok value
  | .float value =>
      match value.toInt? with
      | some value => .ok value
      | none => Checked.refuse (if value.isFinite then .wholeHasFraction else .finiteWanted)
  | value =>
      match value.asText? with
      | none => Checked.refuse .wholeWanted
      | some digits =>
          match Numeral.readInt digits with
          | .ok value => .ok value
          | .error .malformed => Checked.refuse .wholeUnreadable
          | .error (.tooLong _) => Checked.refuse .wholeTooLong

/-- A number. -/
def checkNumber : Datum -> Checked Binary
  | .bool value => .ok (Binary.ofInt (if value then 1 else 0))
  | .int value =>
      let number := Binary.ofInt value
      if number.isFinite then .ok number else Checked.refuse .decimalWanted
  | .float value => .ok value
  | value =>
      match value.asText? with
      | none => Checked.refuse .decimalWanted
      | some digits =>
          match Numeral.readBinary? digits with
          | some value => .ok value
          | none => Checked.refuse .decimalUnreadable

/-- A list of settings; the members of a set count as one. -/
def checkList (check : Datum -> Checked α) : Datum -> Checked (List α)
  | .list items => Checked.each check 0 items
  | .set items => Checked.each check 0 items
  | .pair first second => Checked.each check 0 [first, second]
  | _ => Checked.refuse .listWanted

/-- A list of texts. -/
def checkTexts : Datum -> Checked (List Text) := checkList checkText

/-- The entries of a group of settings. -/
def entries : Datum -> Checked (List (Datum × Datum))
  | .map entries => .ok entries
  | _ => Checked.refuse .objectWanted

end Datum

namespace Fields

/-- A field, with its built-in value if it is left out. -/
def get (entries : List (Datum × Datum)) (name : String) (builtin : α)
    (check : Datum -> Checked α) : Checked α :=
  match Datum.field? (Text.ofString name) entries with
  | none => .ok builtin
  | some value => Checked.within (.key (Text.ofString name)) (check value)

/-- A field that cannot be left out. -/
def need (entries : List (Datum × Datum)) (name : String) (check : Datum -> Checked α) :
    Checked α :=
  match Datum.field? (Text.ofString name) entries with
  | none => Checked.within (.key (Text.ofString name)) (Checked.refuse .missing)
  | some value => Checked.within (.key (Text.ofString name)) (check value)

/-- The fields that are not among the known ones. -/
def unknown (known : List String) (entries : List (Datum × Datum)) : List Problem :=
  entries.filterMap fun entry =>
    match entry.1 with
    | .text name =>
        if known.any fun s => Text.ofString s == name then none
        else some ⟨[.key name], .unknownField⟩
    | key => some ⟨[.ofKey key], .keyNotText⟩

end Fields

namespace Tier

/-- A tier by its name. -/
def check (value : Datum) : Checked Tier :=
  match value.asText? with
  | none => Checked.refuse .unknownTier
  | some name =>
      match ofName? name with
      | some tier => .ok tier
      | none => Checked.refuse .unknownTier

/-- The model of a tier, written alone or as a field. -/
def checkModel : Datum -> Checked Text
  | .text model => .ok model
  | value =>
      match value.entries with
      | .error problems => .error problems
      | .ok entries => Fields.get entries "model" [] Datum.checkText

end Tier

/-- A position of tags by its name. -/
def TagPosition.check : Datum -> Checked TagPosition
  | .text name =>
      match ofName? name with
      | some position => .ok position
      | none => Checked.refuse .unknownChoice
  | _ => Checked.refuse .unknownChoice

/-- The settings of tags. -/
def TagSettings.check (value : Datum) : Checked TagSettings :=
  match value.entries with
  | .error problems => .error problems
  | .ok entries =>
      let builtin : TagSettings := {}
      .ok TagSettings.mk
        |> Checked.given (Fields.get entries "enabled" builtin.enabled Datum.checkTruth)
        |> Checked.given (Fields.get entries "position" builtin.position TagPosition.check)

/-- The models of the tiers. -/
def TierModels.check (value : Datum) : Checked TierModels :=
  match value.entries with
  | .error problems => .error problems
  | .ok entries =>
      let builtin : TierModels := {}
      .ok TierModels.mk
        |> Checked.given (Fields.get entries "low" builtin.low Tier.checkModel)
        |> Checked.given (Fields.get entries "mid" builtin.mid Tier.checkModel)
        |> Checked.given (Fields.get entries "top" builtin.top Tier.checkModel)
        |> Checked.besides (Fields.unknown ["low", "mid", "top"] entries)

namespace RoutingTable

/-- The step to the key of an entry, as against its value. -/
def keyStep : Step := .key (Text.ofString "[key]")

/-- An entry of a routing table. -/
def checkEntry (entry : Datum × Datum) : Checked (Text × Tier) :=
  Checked.within (.ofKey entry.1)
    (.ok Prod.mk
      |> Checked.given (Checked.within keyStep entry.1.checkText)
      |> Checked.given (Tier.check entry.2))

/-- The entries of a routing table. -/
def checkEntries : List (Datum × Datum) -> Checked RoutingTable
  | [] => .ok []
  | entry :: entries =>
      .ok List.cons
        |> Checked.given (checkEntry entry)
        |> Checked.given (checkEntries entries)

/-- A routing table. -/
def check : Datum -> Checked RoutingTable
  | .map entries => checkEntries entries
  | _ => Checked.refuse .mappingWanted

end RoutingTable

namespace RuleSettings

/-- The greatest length that a rule may ask about. -/
def greatestLength : Int := 10000

/-- The length that a rule asks about, which may be given as null. -/
def checkLength : Datum -> Checked (Option Nat)
  | .null => .ok none
  | value =>
      match value.checkWhole with
      | .error problems => .error problems
      | .ok length => Checked.bounded (some length.toNat) (greatestLength < length) (length < 1)

/-- The fields of a rule. -/
def fields : List String :=
  ["category", "exact", "prefix", "contains", "words", "regex", "max_chars"]

/-- A rule. -/
def check (value : Datum) : Checked RuleSettings :=
  match value.entries with
  | .error problems => .error problems
  | .ok entries =>
      let texts (name : String) : Checked (List Text) :=
        Fields.get entries name [] Datum.checkTexts
      .ok RuleSettings.mk
        |> Checked.given (Fields.need entries "category" Datum.checkText)
        |> Checked.given (texts "exact")
        |> Checked.given (texts "prefix")
        |> Checked.given (texts "contains")
        |> Checked.given (texts "words")
        |> Checked.given (texts "regex")
        |> Checked.given (Fields.get entries "max_chars" none checkLength)
        |> Checked.besides (Fields.unknown fields entries)

end RuleSettings

/-- The settings of the router. -/
def RouterSettings.check (value : Datum) : Checked RouterSettings :=
  match value.entries with
  | .error problems => .error problems
  | .ok entries =>
      let builtin : RouterSettings := {}
      let name (field : String) (builtin : Text) : Checked Text :=
        Fields.get entries field builtin Datum.checkText
      .ok RouterSettings.mk
        |> Checked.given (name "auto_model_name" builtin.autoModel)
        |> Checked.given (name "fallback_category" builtin.fallback)
        |> Checked.given (Fields.get entries "override" builtin.tags TagSettings.check)
        |> Checked.given (Fields.get entries "tiers" builtin.tiers TierModels.check)
        |> Checked.given (Fields.get entries "routing" builtin.routing RoutingTable.check)
        |> Checked.given
          (Fields.get entries "rules" builtin.rules (Datum.checkList RuleSettings.check))

namespace ReloadSettings

/-- The shortest interval in seconds, a tenth of one. -/
def shortestInterval : Binary := Binary.ofDecimal false 1 (-1)

/-- The longest interval in seconds, an hour. -/
def longestInterval : Binary := Binary.ofInt 3600

/-- An interval in seconds. -/
def checkInterval (value : Datum) : Checked Binary :=
  match value.checkNumber with
  | .error problems => .error problems
  | .ok interval =>
      Checked.bounded interval (!interval.atMost longestInterval)
        (!shortestInterval.atMost interval)

/-- The settings of reloading. -/
def check (value : Datum) : Checked ReloadSettings :=
  match value.entries with
  | .error problems => .error problems
  | .ok entries =>
      let builtin : ReloadSettings := {}
      .ok ReloadSettings.mk
        |> Checked.given (Fields.get entries "enabled" builtin.enabled Datum.checkTruth)
        |> Checked.given (Fields.get entries "interval_seconds" builtin.interval checkInterval)

end ReloadSettings

/-- All settings. -/
def Settings.check (value : Datum) : Checked Settings :=
  match value.entries with
  | .error problems => .error problems
  | .ok entries =>
      let builtin : Settings := {}
      .ok Settings.mk
        |> Checked.given (Fields.get entries "log_level" builtin.logLevel Datum.checkText)
        |> Checked.given (Fields.get entries "reload" builtin.reload ReloadSettings.check)
        |> Checked.given (Fields.get entries "router" builtin.router RouterSettings.check)

end Switchboard
