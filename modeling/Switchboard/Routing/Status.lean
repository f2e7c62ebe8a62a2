import Switchboard.Routing.Tables

namespace Switchboard
namespace Tables

/-!
The status text of routing tables: the settings in force, the model of each tier, and the rules in
order with the tier that each of them leads to.
-/

/-- A text filled up with blanks at its end. -/
def padRight (width : Nat) (text : String) : String :=
  text ++ String.ofList (List.replicate (width - text.length) ' ')

/-- A text filled up with blanks at its start. -/
def padLeft (width : Nat) (text : String) : String :=
  String.ofList (List.replicate (width - text.length) ' ') ++ text

/-- The line of a tier. -/
def tierLine (tables : Tables) (tier : Tier) : String :=
  s!"  {padRight 4 tier.name.toStr}: {(tables.modelOf tier).toStr}"

/-- The line of a rule. -/
def ruleLine (tables : Tables) (rule : Rule) : Except RoutingFault String :=
  match tables.tierOf rule.category with
  | .error fault => .error fault
  | .ok tier =>
      let number := padLeft 2 (toString (rule.index + 1))
      .ok s!"  {number}. {rule.category.toStr} -> {tier.name.toStr}"

/-- The lines of rules in order. -/
def ruleLines (tables : Tables) : List Rule -> Except RoutingFault (List String)
  | [] => .ok []
  | rule :: rules =>
      match tables.ruleLine rule with
      | .error fault => .error fault
      | .ok line =>
          match tables.ruleLines rules with
          | .error fault => .error fault
          | .ok lines => .ok (line :: lines)

/-- The status text. -/
def status (tables : Tables) : Except RoutingFault String :=
  match tables.tierOf tables.fallback with
  | .error fault => .error fault
  | .ok tier =>
      match tables.ruleLines tables.rules.rules with
      | .error fault => .error fault
      | .ok lines =>
          let tags := if tables.tags.enabled then tables.tags.position.name.toStr else "disabled"
          .ok ("\n".intercalate
            (["Auto-router:",
              s!"  sentinel model : {tables.autoModel.toStr}",
              s!"  fallback       : {tables.fallback.toStr} ({tier.name.toStr})",
              s!"  overrides      : {tags}",
              "Tiers:"] ++ Tier.all.map tables.tierLine ++
              ["Rules (first match wins):"] ++ lines))

end Tables
end Switchboard
