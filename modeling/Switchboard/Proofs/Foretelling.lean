import Switchboard.Command.Run
import Switchboard.Proofs.Validating
import Switchboard.Watch.Hook

namespace Switchboard

open Text

/-!
# What the check of settings says about a hook

The command that checks settings and the hook of a proxy load the same settings from the same path
and build the same tables.  Around that they do different things: the command sets up the log, and
the hook takes the fingerprint of the file.  The command is meant to say beforehand whether the hook
can be set up.

It does, with two exceptions.  A level of the log that is not known breaks the command off, also
where the tables are refused, and the hook never looks at it.  A path with the character zero leads
to nothing, which gives the built-in settings, and has no fingerprint.
-/

namespace Surroundings

section

variable [CharacterNames] [DocumentReader]

/-- The settings at a path. -/
def load (around : Surroundings) (path : Path) : Except LoadFault Settings :=
  Settings.load (around.resolve path) (around.find path) (around.find path)

/-- The tables for the settings at a path. -/
def tables (around : Surroundings) (path : Path) : Except SetupFault Tables :=
  Tables.ofFile (around.resolve path) (around.find path) (around.find path)

theorem stops_tables_of_load {around : Surroundings} {path : Path} {settings : Settings}
    (loaded : around.load path = .ok settings) :
    stops SetupFault.isOfSettings (around.tables path) =
      stops BuildFault.isOfSettings (Tables.build settings.router) := by
  rw [load] at loaded
  rw [tables, Tables.ofFile, loaded]
  simp only
  cases Tables.build settings.router <;> rfl

end

/-- Nothing is found at a path with the character zero. -/
theorem find_of_impossible {around : Surroundings} {path : Path}
    (impossible : path.isPossible = false) : around.find path = .absent := by
  rw [find, impossible]
  rfl

end Surroundings

/-- A hook that comes out as tables do: it is set up if they are built, and fails as they fail. -/
inductive Hook.ComesFrom : Except SetupFault Tables -> Except HookFault Hook -> Prop where
  | built (hook : Hook) : ComesFrom (.ok hook.tables) (.ok hook)
  | refused (fault : SetupFault) : ComesFrom (.error fault) (.error (.setup fault))

namespace Command

/-- The code of a command foretells whether a hook is set up: it is 0 if the hook is there, 1 if its
settings are refused, and the command does not break off where the hook is there. -/
structure Foretells (code : Except CommandFault Nat) (started : Except HookFault Hook) : Prop where
  accepts : code = .ok 0 ↔ Exists fun hook : Hook => started = .ok hook
  refuses : code = .ok 1 ↔ Exists fun fault : SetupFault =>
    started = .error (.setup fault) ∧ fault.isOfSettings = true
  ends : (Exists fun hook : Hook => started = .ok hook) ->
    Exists fun number : Nat => code = .ok number

/-- The code of a command that does nothing but build tables. -/
def codeOf : Except SetupFault Tables -> Except CommandFault Nat
  | .ok _ => .ok 0
  | .error fault => (endBy (.setup fault)).code

/-- A text that names a level of the log, in whatever case. -/
def IsLevel (name : Text) : Prop := levels.contains (upper name) = true

section

variable [CharacterNames] [DocumentReader]

/-! ## The hook -/

theorem comesFrom_load (path resolved : Path) (looks : Looks) :
    Hook.ComesFrom (Tables.ofFile resolved looks.forPresence looks.forSettings)
      (Hook.load path resolved looks).1 := by
  rw [Hook.load, Tables.ofFile]
  simp only
  cases Settings.load resolved looks.forPresence looks.forSettings with
  | error fault => exact .refused (.load fault)
  | ok settings =>
      simp only [Hook.ofSettings]
      cases built : Tables.build settings.router with
      | error fault => exact .refused (.build fault)
      | ok tables =>
          rcases (Tables.isClosed_of_build built).exists_status with ⟨status, shown⟩
          simp only [Hook.readyNotices, shown]
          exact .built ⟨tables, _, _, _, _⟩

theorem comesFrom_start {around : Surroundings} {asked : Option Text} {path : Path}
    (located : around.settingsPath asked = .ok path) (possible : path.isPossible = true) :
    Hook.ComesFrom (around.tables path) (Hook.start around asked).1 := by
  have found : (around.settingsPath asked).bind Path.ifPossible = .ok path := by
    rw [located, Except.bind, Path.ifPossible, if_pos possible]
  rw [Hook.start, found]
  exact comesFrom_load path (around.resolve path) (.steady (around.find path))

/-! ## The command -/

variable {around : Surroundings} {catalog : Option Catalog} {arguments : List Text} {path : Path}

theorem code_check_of_level (located : around.settingsPath arguments.head? = .ok path)
    (known : forall settings : Settings,
      around.load path = .ok settings -> IsLevel settings.logLevel) :
    (check around catalog arguments).code = codeOf (around.tables path) := by
  rw [Surroundings.load] at known
  rw [check, located, Surroundings.tables, Tables.ofFile]
  simp only [tablesAt]
  cases loaded : Settings.load (around.resolve path) (around.find path) (around.find path) with
  | error fault => rfl
  | ok settings =>
      have level : levels.contains (upper settings.logLevel) = true := known settings loaded
      simp only [tablesOf, level, if_true]
      cases built : Tables.build settings.router with
      | error fault => rfl
      | ok tables =>
          rcases (Tables.isClosed_of_build built).exists_status with ⟨status, shown⟩
          simp only [shown, codeOf]

theorem code_check_of_unknown {settings : Settings}
    (located : around.settingsPath arguments.head? = .ok path)
    (loaded : around.load path = .ok settings) (unknown : ¬ IsLevel settings.logLevel) :
    (check around catalog arguments).code = .error (.unknownLevel (upper settings.logLevel)) := by
  have level : levels.contains (upper settings.logLevel) = false := Bool.eq_false_iff.mpr unknown
  rw [Surroundings.load] at loaded
  rw [check, located]
  simp only [tablesAt, loaded, tablesOf, level, Bool.false_eq_true, if_false, endBy]

/-! ## The two side by side -/

variable {tables : Except SetupFault Tables} {started : Except HookFault Hook}

omit [CharacterNames] [DocumentReader] in
theorem foretells_codeOf (comes : Hook.ComesFrom tables started) :
    Foretells (codeOf tables) started := by
  cases comes with
  | built hook => constructor <;> simp [codeOf]
  | refused fault =>
      cases settings : fault.isOfSettings <;> constructor <;> simp [codeOf, endBy, settings]

omit [CharacterNames] [DocumentReader] in
/-- A command that breaks off foretells a hook that fails with something other than its settings. -/
theorem foretells_error_iff (comes : Hook.ComesFrom tables started) (fault : CommandFault) :
    Foretells (.error fault) started ↔ stops SetupFault.isOfSettings tables = true := by
  cases comes with
  | built hook =>
      refine iff_of_false (fun foretells => ?_) (by simp [stops])
      have ended := foretells.accepts.mpr ⟨hook, rfl⟩
      cases ended
  | refused other =>
      constructor
      · intro foretells
        cases settings : other.isOfSettings with
        | false => simp [stops, settings]
        | true =>
            have ended := foretells.refuses.mpr ⟨other, rfl, settings⟩
            cases ended
      · intro stopped
        rw [stops, Bool.not_eq_true'] at stopped
        constructor <;> simp [stopped]

theorem foretells_iff_of_possible (located : around.settingsPath arguments.head? = .ok path)
    (possible : path.isPossible = true) :
    Foretells (check around catalog arguments).code (Hook.start around arguments.head?).1 ↔
      forall settings : Settings, around.load path = .ok settings ->
        IsLevel settings.logLevel ∨
          stops BuildFault.isOfSettings (Tables.build settings.router) = true := by
  have comes := comesFrom_start located possible
  by_cases known : forall settings : Settings,
      around.load path = .ok settings -> IsLevel settings.logLevel
  · rw [code_check_of_level located known]
    exact iff_of_true (foretells_codeOf comes) fun settings loaded => Or.inl (known settings loaded)
  · push Not at known
    rcases known with ⟨settings, loaded, unknown⟩
    rw [code_check_of_unknown located loaded unknown, foretells_error_iff comes,
      Surroundings.stops_tables_of_load loaded, loaded]
    constructor
    · intro stopped other same
      injection same with same
      exact Or.inr (same ▸ stopped)
    · intro condition
      exact (condition settings rfl).resolve_left unknown

/-- A path with the character zero gives the command the built-in settings and the hook none. -/
theorem not_foretells_of_impossible (located : around.settingsPath arguments.head? = .ok path)
    (impossible : path.isPossible = false) :
    ¬ Foretells (check around catalog arguments).code (Hook.start around arguments.head?).1 := by
  have absent := @Surroundings.find_of_impossible around path impossible
  have faulty : (around.settingsPath arguments.head?).bind Path.ifPossible =
      .error .zeroCharacter := by
    rw [located, Except.bind, Path.ifPossible, impossible]
    rfl
  have known : forall settings : Settings,
      around.load path = .ok settings -> IsLevel settings.logLevel := by
    intro settings loaded
    rw [Surroundings.load, absent] at loaded
    injection loaded with same
    rw [← same, IsLevel]
    decide
  rcases Tables.exists_build_builtin with ⟨builtin, built⟩
  have accepted : around.tables path = .ok builtin := by
    have loaded : Settings.load (around.resolve path) .absent .absent = .ok {} := rfl
    rw [Surroundings.tables, absent, Tables.ofFile, loaded]
    simp only [built]
  intro foretells
  rw [code_check_of_level located known, accepted, Hook.start, faulty] at foretells
  rcases foretells.accepts.mp rfl with ⟨hook, started⟩
  cases started

theorem run_check (around : Surroundings) (catalog : Option Catalog) (arguments : List Text) :
    run around catalog (ofString "check" :: arguments) = check around catalog arguments := by
  rfl

/-- The check of settings foretells whether the hook for the same path is set up exactly if the path
does not hold the character zero and the level of the log is known, unless a search pattern breaks
off both of them. -/
theorem check_foretells_start_iff (around : Surroundings) (catalog : Option Catalog)
    (arguments : List Text) :
    Foretells (run around catalog (ofString "check" :: arguments)).code
        (Hook.start around arguments.head?).1 ↔
      forall path : Path, around.settingsPath arguments.head? = .ok path ->
        path.isPossible = true ∧
        forall settings : Settings, around.load path = .ok settings ->
          levels.contains (upper settings.logLevel) = true ∨
            stops BuildFault.isOfSettings (Tables.build settings.router) = true := by
  rw [run_check]
  cases located : around.settingsPath arguments.head? with
  | error fault =>
      rw [check, Hook.start, located]
      refine iff_of_true ?_ ?_
      · constructor <;> simp [Except.bind]
      · intro path impossible
        cases impossible
  | ok path =>
      simp only [Except.ok.injEq, forall_eq']
      cases possible : path.isPossible with
      | false =>
          exact iff_of_false (not_foretells_of_impossible located possible)
            fun condition => Bool.false_ne_true condition.1
      | true =>
          rw [foretells_iff_of_possible located possible]
          exact ⟨fun condition => ⟨rfl, condition⟩, And.right⟩

end

/-- Surroundings with the same content at every path. -/
def surroundingsOf (content : String) : Surroundings :=
  { home := rootPath
    directory := rootPath
    files := fun _ => .file 1000 ((ofString content).map fun c => UInt8.ofNat c.toNat) }

/-- A level of the log that is not known breaks the check off, and the hook is set up. -/
theorem check_breaks_off_where_hook_starts :
    ¬ forall (around : Surroundings) (catalog : Option Catalog) (path : Text),
      Foretells (run around catalog [ofString "check", path]).code
        (Hook.start around (some path)).1 := by
  intro total
  let around := surroundingsOf "log_level: LOUD\nrouter:\n rules: []"
  let path : Path := ⟨.here, [ofString "r.yaml"]⟩
  have located : around.settingsPath ([ofString "r.yaml"] : List Text).head? = .ok path := rfl
  have read : ((around.load path).toOption.any fun settings =>
      !levels.contains (upper settings.logLevel) &&
        !stops BuildFault.isOfSettings (Tables.build settings.router)) = true := by
    decide +kernel
  rcases exists_of_any_toOption read with ⟨settings, loaded, both⟩
  rw [Bool.and_eq_true, Bool.not_eq_true', Bool.not_eq_true'] at both
  have unknown : ¬ IsLevel settings.logLevel := Bool.eq_false_iff.mp both.1
  have foretells := total around none (ofString "r.yaml")
  rw [run_check, code_check_of_unknown located loaded unknown] at foretells
  have stopped := (foretells_error_iff (comesFrom_start located rfl) _).mp foretells
  rw [Surroundings.stops_tables_of_load loaded, both.2] at stopped
  cases stopped

end Command
end Switchboard
