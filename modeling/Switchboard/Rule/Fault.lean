import Switchboard.Pattern.Fault
import Switchboard.Settings.Basic

namespace Switchboard

/-!
Why routing tables cannot be built from settings.

Most faults say which part of the settings is inconsistent.  A pattern may also fail in a way that
is not a fault of the settings as such: a repetition count with too many digits or beyond any
sense, or switches that contradict each other.
-/

/-- Why routing tables cannot be built. -/
inductive BuildFault where
  | tierWithoutModel (tier : Tier)
  | emptyFallback
  | fallbackNotRouted (category : Text)
  | emptyCategory (index : Nat)
  | badPattern (index : Nat) (category pattern : Text) (problem : Pattern.Problem)
      (position : Option Nat)
  | patternTooLong (digits : Nat)
  | patternTooLarge
  | patternSwitches
  | ruleWithoutTests (index : Nat) (category : Text)
  | fallbackByText (index : Nat) (category : Text)
  | categoryNotRouted (index : Nat) (category : Text)
  | emptyAutoModel
deriving Repr, DecidableEq

namespace BuildFault

/-- The fault of a rule with a pattern that is refused. -/
def ofPattern (index : Nat) (category pattern : Text) : Pattern.Fault -> BuildFault
  | .malformed problem position => .badPattern index category pattern problem position
  | .repetitionTooLong digits => .patternTooLong digits
  | .repetitionTooLarge => .patternTooLarge
  | .switchConflict => .patternSwitches

/-- Whether a fault is one of the settings as such. -/
def isOfSettings : BuildFault -> Bool
  | .patternTooLong _ => false
  | .patternTooLarge => false
  | .patternSwitches => false
  | _ => true

/-- The wording of a fault. -/
def message : BuildFault -> String
  | tierWithoutModel tier => s!"Tier '{tier.name.toStr}' has no model configured"
  | emptyFallback => "fallback_category must not be empty"
  | fallbackNotRouted category =>
      s!"Fallback category '{category.toStr}' is missing from routing"
  | emptyCategory index => s!"Rule #{index} has an empty category"
  | badPattern index category pattern problem position =>
      let why := (Pattern.Fault.malformed problem position).message pattern
      s!"Rule #{index} ({category.toStr}): invalid regex {(Text.quoted pattern).toStr}: {why}"
  | patternTooLong digits => (Pattern.Fault.repetitionTooLong digits).message []
  | patternTooLarge => Pattern.Fault.repetitionTooLarge.message []
  | patternSwitches => Pattern.Fault.switchConflict.message []
  | ruleWithoutTests index category =>
      s!"Rule #{index} ({category.toStr}) has no match predicates"
  | fallbackByText index category =>
      s!"Rule #{index}: fallback category '{category.toStr}' " ++
        "may only use max_chars, not text patterns"
  | categoryNotRouted index category =>
      s!"Rule #{index} uses category '{category.toStr}' which has no routing entry"
  | emptyAutoModel => "auto_model_name must not be empty"

end BuildFault
end Switchboard
