import Switchboard.Routing.Route
import Switchboard.Routing.Status
import Switchboard.Watch.Polling

namespace Switchboard

/-!
The hook through which a proxy passes its requests.

The hook routes completions that ask for routing and passes on everything else as it is.  If it is
to follow a settings file, the first request that it routes starts the polling; stopping it ends
that, until a request is routed again.  What counts as already loaded is the file as it was before
the hook loaded it.
-/

/-- A hook. -/
structure Hook where
  tables : Tables
  /-- The path of the settings file and the path from the root to it. -/
  path : Option (Path × Path) := none
  reload : ReloadSettings := {}
  /-- The fingerprint of the file that the tables were built from. -/
  baseline : Option Fingerprint := none
  watcher : Option Watcher := none
deriving Repr, DecidableEq

/-- A request that a proxy passes to its hook. -/
structure HookCall where
  /-- What kind of call the request belongs to. -/
  kind : Text
  request : Chat.Request

/-- What a hook gives back. -/
inductive HookAnswer where
  /-- The very request that was passed in. -/
  | passed
  | routed (request : Chat.Request)
  | failed (fault : RoutingFault)

/-- A hook after a call, what it gives back and what it reports. -/
structure HookTurn where
  hook : Hook
  answer : HookAnswer
  notices : List Notice

/-- Why a hook cannot be set up. -/
inductive HookFault where
  | path (fault : PathFault)
  | setup (fault : SetupFault)
  | status (fault : RoutingFault)
deriving Repr, DecidableEq

namespace Hook

/-- The kinds of calls that are routed. -/
def routedKinds : List Text := [Text.ofString "completion", Text.ofString "acompletion"]

/-- Whether a call is routed. -/
def routes (hook : Hook) (call : HookCall) : Bool :=
  routedKinds.contains call.kind && hook.tables.isAutoRequest call.request

/-- The watcher of a hook that is to follow a file and does not do so yet. -/
def newWatcher? (hook : Hook) (state : FileState) : Option Watcher :=
  match hook.watcher, hook.path with
  | none, some (path, resolved) =>
      if hook.reload.enabled then
        let memory := hook.baseline.getD (Fingerprint.ofState state)
        some { reloader := ⟨path, resolved, memory⟩, interval := hook.reload.interval.text }
      else none
  | _, _ => none

/-- The hook following its file, if it is to. -/
def ensureWatcher (hook : Hook) (state : FileState) : Hook × List Notice :=
  match hook.newWatcher? state with
  | none => (hook, [])
  | some watcher => ({ hook with watcher := some watcher.start }, [watcher.startNotice])

/-- A call, given what is found at the path of the settings file. -/
def call (hook : Hook) (state : FileState) (call : HookCall) : HookTurn :=
  if hook.routes call then
    let (hook, notices) := hook.ensureWatcher state
    match hook.tables.route call.request with
    | .error fault => ⟨hook, .failed fault, notices⟩
    | .ok routed => ⟨hook, .routed routed.request, notices ++ Tables.routedNotices routed⟩
  else ⟨hook, .passed, []⟩

/-- The hook without its watcher, whose polling has been stopped. -/
def stop (hook : Hook) : Hook := { hook with watcher := none }

variable [CharacterNames] [DocumentReader]

/-- A check of the settings file, if the hook follows one. -/
def check? (hook : Hook) (looks : Looks) : Option (Hook × Check) :=
  hook.watcher.map fun watcher =>
    let check := watcher.reloader.check looks
    let tables := (Watcher.newTables? check).getD hook.tables
    ({ hook with tables, watcher := some { watcher with reloader := check.reloader } }, check)

/-- The hook for settings that have been loaded. -/
def ofSettings (path resolved : Path) (baseline : Fingerprint) (settings : Settings) :
    Except HookFault Hook :=
  match Tables.build settings.router with
  | .error fault => .error (.setup (.build fault))
  | .ok tables =>
      .ok
        { tables
          path := some (path, resolved)
          reload := settings.reload
          baseline := some baseline }

/-- What is reported about a hook that has been set up. -/
def readyNotices (path : Path) (tables : Tables) : Except HookFault (List Notice) :=
  match tables.status with
  | .error fault => .error (.status fault)
  | .ok status => .ok [.routerReady path.text status]

/-- The hook for the settings at a path, the states of the file at the two looks for the
fingerprint and at the two for the settings being given. -/
def load (path resolved : Path) (looks : Looks) : Except HookFault Hook × List Notice :=
  let baseline := Fingerprint.take looks.forStamp looks.forDigest
  let notices := Settings.loadNotices path looks.forPresence
  match Settings.load resolved looks.forPresence looks.forSettings with
  | .error fault => (.error (.setup (.load fault)), notices)
  | .ok settings =>
      let notices := notices ++ Tables.buildNotices settings.router
      match ofSettings path resolved baseline settings with
      | .error fault => (.error fault, notices)
      | .ok hook =>
          match readyNotices path hook.tables with
          | .error fault => (.error fault, notices)
          | .ok ready => (.ok hook, notices ++ ready)

/-- The hook for the settings of the surroundings. The fingerprint is taken first, so a path that
can lead to nothing is no way to the built-in settings. -/
def start (around : Surroundings) (asked : Option Text) : Except HookFault Hook × List Notice :=
  match (around.settingsPath asked).bind Path.ifPossible with
  | .error fault => (.error (.path fault), [])
  | .ok path => load path (around.resolve path) (.steady (around.find path))

end Hook
end Switchboard
