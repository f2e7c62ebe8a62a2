import Switchboard.Rule.Ordered

namespace Switchboard

/-!
What the router reports while it works.

A notice says what happened; its level and its wording follow from that.
-/

/-- How important a notice is. -/
inductive NoticeLevel where
  | debug
  | info
  | warning
  | error
deriving Repr, DecidableEq

/-- The name of a level. -/
def NoticeLevel.name : NoticeLevel -> String
  | debug => "DEBUG"
  | info => "INFO"
  | warning => "WARNING"
  | error => "ERROR"

/-- Something worth reporting. -/
inductive Notice where
  | ruleMatched (index : Nat) (category : Text)
  | noRuleMatched (fallback : Text)
  | tierPicked (tier : Tier) (model : Text)
  | categoryRouted (category : Text) (tier : Tier) (model : Text)
  | rulesHidden (shadow : Shadow)
  | tablesReplaced (rules categories : Nat)
  | fileMissing (path : Text)
  | watchStarted (path interval : Text)
  | changeRejected (path : Text) (why : String)
  | checkFailed (why : String)
  | routerReady (path : Text) (status : String)
deriving Repr, DecidableEq

namespace Notice

/-- The level of a notice. -/
def level : Notice -> NoticeLevel
  | ruleMatched _ _ => .debug
  | noRuleMatched _ => .debug
  | rulesHidden _ => .warning
  | changeRejected _ _ => .error
  | checkFailed _ => .error
  | _ => .info

/-- The wording of a notice. -/
def message : Notice -> String
  | ruleMatched index category => s!"Auto-router: rule #{index} matched '{category.toStr}'"
  | noRuleMatched fallback =>
      s!"Auto-router: no rule matched, falling back to '{fallback.toStr}'"
  | tierPicked tier model =>
      s!"Auto-router: override '{tier.name.toStr}' -> {model.toStr}"
  | categoryRouted category tier model =>
      s!"Auto-router: '{category.toStr}' -> {tier.name.toStr} -> {model.toStr}"
  | rulesHidden ⟨shadowing, shadowed⟩ =>
      s!"Rule #{shadowing.index} ({shadowing.category.toStr}) is a length rule placed before " ++
        s!"rule #{shadowed.index} ({shadowed.category.toStr}); " ++
        "short messages will never reach the later rule"
  | tablesReplaced rules categories =>
      s!"Auto-router reloaded: {rules} rules, {categories} categories"
  | fileMissing path => s!"Config {path.toStr} not found, using built-in routing rules"
  | watchStarted path interval =>
      s!"Config reloader started for {path.toStr} (every {interval.toStr}s)"
  | changeRejected path why =>
      s!"Rejected config change in {path.toStr}, keeping previous rules: {why}"
  | checkFailed why => s!"Config reloader error: {why}"
  | routerReady path status => s!"Auto-router ready from {path.toStr}\n{status}"

/-- The level and the wording of a notice in one line. -/
def line (notice : Notice) : String := s!"{notice.level.name}: {notice.message}"

end Notice
end Switchboard
