import Switchboard.Notice
import Switchboard.Routing.Tables

namespace Switchboard

/-!
Deciding on a message.

A tag that counts picks the tier and the rules are not asked.  Otherwise the first rule that
matches gives the category, or the fallback category is taken, and the tables give the tier and
the model.
-/

/-- Why a message goes to its tier. -/
inductive Reason where
  | tag
  /-- The category that the rules give; without a rule that matches, it is the fallback. -/
  | rules (matched : Option Nat) (category : Text)
deriving Repr, DecidableEq

/-- The category behind a reason; a tag needs none. -/
def Reason.category? : Reason -> Option Text
  | tag => none
  | rules _ category => some category

/-- The tier and the model for a message. -/
structure Decision where
  tier : Tier
  model : Text
  /-- The message, without its tags if they picked the tier. -/
  text : Text
  reason : Reason
deriving Repr, DecidableEq

namespace Decision

/-- The category of a message whose tier was not picked by a tag. -/
def category? (decision : Decision) : Option Text := decision.reason.category?

/-- Whether a tag picked the tier. -/
def isPicked (decision : Decision) : Bool := decision.category?.isNone

/-- What is reported about the rules. -/
def ruleNotices (decision : Decision) : List Notice :=
  match decision.reason with
  | .tag => []
  | .rules (some index) category => [.ruleMatched index category]
  | .rules none category => [.noRuleMatched category]

/-- What is reported about the outcome. -/
def outcomeNotice (decision : Decision) : Notice :=
  match decision.category? with
  | none => .tierPicked decision.tier decision.model
  | some category => .categoryRouted category decision.tier decision.model

end Decision

namespace Tables

/-- The decision of the rules. -/
def decideByRules (tables : Tables) (message : Text) : Except RoutingFault Decision :=
  let rule := tables.rules.match? message
  let category := (rule.map (·.category)).getD tables.fallback
  match tables.tierOf category with
  | .error fault => .error fault
  | .ok tier =>
      .ok ⟨tier, tables.modelOf tier, message, .rules (rule.map (·.index)) category⟩

/-- The decision on a message. -/
def decide (tables : Tables) (message : Text) : Except RoutingFault Decision :=
  if tables.tags.enabled then
    match Tag.extract tables.tags.position message with
    | .error fault => .error fault
    | .ok ⟨some tier, text⟩ => .ok ⟨tier, tables.modelOf tier, text, .tag⟩
    | .ok ⟨none, _⟩ => tables.decideByRules message
  else tables.decideByRules message

end Tables
end Switchboard
