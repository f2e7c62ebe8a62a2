import Switchboard.Rule.Basic

namespace Switchboard

/-!
The ordered list of rules.

The first rule that matches decides; a message that no rule matches, and a blank one, get the
fallback category.  A rule for the fallback category may go by length only, so that no phrase ever
assigns it.

A rule that goes by length alone hides the rules behind it from short messages.  That is allowed
and reported: the report names the first such rule and the first rule of another kind behind it.
-/

/-- The rules in order of priority, and the category of messages that none of them matches. -/
structure RuleList where
  rules : List Rule
  fallback : Text
deriving Repr, DecidableEq

/-- A rule by length and a rule behind it that short messages never reach. -/
structure Shadow where
  shadowing : Rule
  shadowed : Rule
deriving Repr, DecidableEq

namespace RuleList

/-- The first rule that assigns the fallback category by more than length. -/
def fallbackByText? (fallback : Text) (rules : List Rule) : Option Rule :=
  rules.find? fun rule => rule.category == fallback && !rule.lengthOnly

variable [CharacterNames]

/-- The list of rules for given settings. -/
def compile (settings : List RuleSettings) (fallback : Text) : Except BuildFault RuleList :=
  match Rule.compileFrom 0 settings with
  | .error fault => .error fault
  | .ok rules =>
      match fallbackByText? fallback rules with
      | some rule => .error (.fallbackByText rule.index fallback)
      | none => .ok ⟨rules, fallback⟩

/-- The first rule by length and the first rule of another kind behind it. -/
def shadow? (list : RuleList) : Option Shadow :=
  match list.rules.dropWhile fun rule => !rule.lengthOnly with
  | [] => none
  | shadowing :: rest =>
      (rest.find? fun rule => !rule.lengthOnly).map fun shadowed => ⟨shadowing, shadowed⟩

/-- The first rule that matches a message. -/
def match? (list : RuleList) (message : Text) : Option Rule :=
  let normalized := normalize message
  if normalized.isEmpty then none else list.rules.find? fun rule => rule.isMatch normalized

/-- The category of a message. -/
def classify (list : RuleList) (message : Text) : Text :=
  match list.match? message with
  | some rule => rule.category
  | none => list.fallback

end RuleList
end Switchboard
