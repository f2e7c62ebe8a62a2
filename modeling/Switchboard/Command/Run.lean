import Switchboard.Catalog
import Switchboard.Command.Arguments
import Switchboard.Routing.Decision
import Switchboard.Routing.Status
import Switchboard.Watch.Reloader

namespace Switchboard

/-!
The command line.

One command checks the settings and shows the routing tables, another one shows how a message would
be routed.  Settings that are refused end either of them with a message; all other faults are left
to whoever runs the command.
-/

/-- Why a command breaks off. -/
inductive CommandFault where
  | path (fault : PathFault)
  | setup (fault : SetupFault)
  | unknownLevel (name : Text)
  | routing (fault : RoutingFault)
deriving Repr, DecidableEq

/-- The wording of a fault. -/
def CommandFault.message : CommandFault -> String
  | path fault => fault.message
  | setup fault => fault.message
  | unknownLevel name => s!"Level '{name.toStr}' does not exist"
  | routing fault => fault.message

/-- What a command has written, and its code or why it broke off. -/
structure CommandEnd where
  output : List String
  code : Except CommandFault Nat

namespace Command

/-- The names of the levels of the log. -/
def levels : List Text :=
  ["TRACE", "DEBUG", "INFO", "SUCCESS", "WARNING", "ERROR", "CRITICAL"].map Text.ofString

/-- How the program is used. -/
def usage : List String :=
  ["Usage:",
   "  clawroute check [config_path]                 Validate config and show routing tables",
   "  clawroute classify [--config PATH] <message>  Show how a message would be routed",
   "  clawroute help                                Show this help",
   "",
   "Config path defaults to $CLAWROUTE_CONFIG, then ./routing_rules.yaml"]

variable [CharacterNames] [DocumentReader]

/-- The tables for settings, whose level of the log has to be known. -/
def tablesOf (settings : Settings) : Except CommandFault Tables :=
  let level := Text.upper settings.logLevel
  if levels.contains level then
    match Tables.build settings.router with
    | .ok tables => .ok tables
    | .error fault => .error (.setup (.build fault))
  else .error (.unknownLevel level)

/-- The tables for the settings at a path. -/
def tablesAt (around : Surroundings) (path : Path) : Except CommandFault Tables :=
  let state := around.find path
  match Settings.load (around.resolve path) state state with
  | .error fault => .error (.setup (.load fault))
  | .ok settings => tablesOf settings

/-- The end of a command by a fault. -/
def endBy (fault : CommandFault) : CommandEnd :=
  match fault with
  | .setup fault =>
      if fault.isOfSettings then ⟨[s!"Config error: {fault.message}"], .ok 1⟩
      else ⟨[], .error (.setup fault)⟩
  | fault => ⟨[], .error fault⟩

/-- The lines about tables that have been checked. -/
def checkedLines (catalog : Option Catalog) (path : Path) (isPresent : Bool) (tables : Tables)
    (status : String) : List String :=
  let note := if isPresent then "" else " (not found, using defaults)"
  [s!"Config: {path.text.toStr}{note}", status] ++
    (Catalog.warnings catalog tables).map (fun warning => s!"Warning: {warning}") ++ ["OK"]

/-- The command that checks the settings. -/
def check (around : Surroundings) (catalog : Option Catalog) (arguments : List Text) :
    CommandEnd :=
  match around.settingsPath arguments.head? with
  | .error fault => ⟨[], .error (.path fault)⟩
  | .ok path =>
      match tablesAt around path with
      | .error fault => endBy fault
      | .ok tables =>
          match tables.status with
          | .error fault => ⟨[], .error (.routing fault)⟩
          | .ok status =>
              let isPresent := (around.find path).isPresent
              ⟨checkedLines catalog path isPresent tables status, .ok 0⟩

/-- The lines about a decision. -/
def decisionLines (decision : Decision) : List String :=
  let category := ((decision.category?.filter (!·.isEmpty)).map Text.toStr).getD "(override)"
  [s!"category: {category}", s!"tier    : {decision.tier.name.toStr}",
   s!"model   : {decision.model.toStr}", s!"message : {decision.text.toStr}"]

/-- The command that classifies a message. -/
def classify (around : Surroundings) (arguments : List Text) : CommandEnd :=
  match ClassifyRequest.ofArguments arguments with
  | .error fault => ⟨[s!"Error: {fault.message}"], .ok 2⟩
  | .ok request =>
      if request.message.isEmpty then
        ⟨["Usage: clawroute classify [--config PATH] <message>"], .ok 2⟩
      else
        match around.settingsPath request.path with
        | .error fault => ⟨[], .error (.path fault)⟩
        | .ok path =>
            match tablesAt around path with
            | .error fault => endBy fault
            | .ok tables =>
                match tables.decide request.message with
                | .error fault => ⟨[], .error (.routing fault)⟩
                | .ok decision => ⟨decisionLines decision, .ok 0⟩

/-- The words that ask how the program is used. -/
def helpWords : List Text := ["-h", "--help", "help"].map Text.ofString

/-- A command with its arguments. -/
def run (around : Surroundings) (catalog : Option Catalog) : List Text -> CommandEnd
  | [] => ⟨usage, .ok 0⟩
  | name :: arguments =>
      if helpWords.contains name then ⟨usage, .ok 0⟩
      else if name = Text.ofString "check" then check around catalog arguments
      else if name = Text.ofString "classify" then classify around arguments
      else ⟨s!"Unknown command: {name.toStr}" :: usage, .ok 2⟩

/-- The path of the settings that a command reads, if it reads any. -/
def settingsPath? (around : Surroundings) : List Text -> Option Path
  | [] => none
  | name :: arguments =>
      let asked :=
        if name = Text.ofString "check" then some arguments.head?
        else if name = Text.ofString "classify" then
          (ClassifyRequest.ofArguments arguments).toOption.map (·.path)
        else none
      asked.bind fun asked => (around.settingsPath asked).toOption

end Command
end Switchboard
