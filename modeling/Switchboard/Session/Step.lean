import Switchboard.Session.Basic

namespace Switchboard
namespace Session

/-!
The steps of a session.

A step that lacks what it needs says so and changes nothing, and so does one that fails to make
something: what was there before stays.  The steps that have to wait for something let the loops
that are waiting have their turn first.
-/

/-- A step. -/
inductive Action where
  | write (path : Text) (content : List UInt8) (stamp : Option Int)
  | touch (path : Text) (stamp : Option Int)
  | delete (path : Text)
  | makeDirectory (path : Text) (stamp : Option Int)
  | create (settings : Option Datum)
  | load (path : Text)
  | reload (settings : Option Datum)
  | hold
  | held (message : Text)
  | decide (message : Text)
  | classify (message : Text)
  | route (request : Chat.Request)
  | status
  | resolve (category : Text)
  | isAutomatic (request : Chat.Request)
  | fingerprint (path : Text)
  | watch (path : Text) (fromFingerprint : Bool)
  | check
  | start
  | tick
  | stop
  | createHook (settings reload : Option Datum) (path : Option Text)
  | loadHook (path : Option Text)
  | callHook (call : HookCall)
  | checkHook
  | stopHook

variable (session : Session)

/-- A change of what is found at a path, given what it makes of that. -/
def change (path : Text) (how : FileState -> Except FileFault FileState) : Outcome :=
  match session.locate path with
  | .error fault => session.fail (.path fault)
  | .ok path =>
      let resolved := session.around.resolve path
      match how (session.files.get resolved) with
      | .error fault => session.fail (.file path.text fault)
      | .ok state =>
          ⟨{ session with
              files := session.files.put resolved state
              clock := session.clock + 1 }, .ok .done, []⟩

/-- The given time stamp or that of the clock. -/
def stampOr (stamp : Option Int) : Int := stamp.getD session.clock

variable [CharacterNames] [DocumentReader]

/-- A router for given settings. -/
def createWith (settings : RouterSettings) : Outcome :=
  let notices := Tables.buildNotices settings
  match Tables.build settings with
  | .error fault => session.fail (.setup (.build fault)) notices
  | .ok tables => ⟨session.addRouter tables, .ok .done, notices⟩

/-- A router for settings that are given as a document. -/
def create (settings : Option Datum) : Outcome :=
  match routerSettings settings with
  | .error problems => session.fail (.settings problems)
  | .ok settings => session.createWith settings

/-- A router for the settings of a file. -/
def loadRouter (asked : Text) : Outcome :=
  match session.around.settingsPath (some asked) with
  | .error fault => session.fail (.path fault)
  | .ok path =>
      let state := session.around.find path
      let notices := Settings.loadNotices path state
      match Settings.load (session.around.resolve path) state state with
      | .error fault => session.fail (.setup (.load fault)) notices
      | .ok settings =>
          let notices := notices ++ Tables.buildNotices settings.router
          match Tables.build settings.router with
          | .error fault => session.fail (.setup (.build fault)) notices
          | .ok tables => ⟨session.addRouter tables, .ok .done, notices⟩

/-- Other settings for the router at a place. -/
def reloadWith (place : Nat) (settings : RouterSettings) : Outcome :=
  let notices := Tables.reloadNotices settings
  match Tables.build settings with
  | .error fault => session.fail (.setup (.build fault)) notices
  | .ok tables => ⟨session.putTables place tables, .ok (.tables tables), notices⟩

/-- Other settings, given as a document, for the router at a place. -/
def reload (place : Nat) (settings : Option Datum) : Outcome :=
  match routerSettings settings with
  | .error problems => session.fail (.settings problems)
  | .ok settings => session.reloadWith place settings

/-- A reply, or the fault of a look-up. -/
def answerRouting (result : Except RoutingFault α) (reply : α -> Reply)
    (notices : α -> List Notice) : Outcome :=
  match result with
  | .error fault => session.fail (.routing fault)
  | .ok value => session.answer (reply value) (notices value)

/-- The tier and the model of a category. -/
def resolveCategory (tables : Tables) (category : Text) : Outcome :=
  session.answerRouting (tables.tierOf category)
    (fun tier => .resolved tier (tables.modelOf tier)) fun _ => []

/-- What the held tables are like now. -/
def heldReply (live held : Live) (message : Text) : Reply :=
  .held (live.number == held.number) (held.tables.classify message) (held.tables.modelOf .low)

/-- A fingerprint, which is remembered. -/
def takeFingerprint (path : Text) : Outcome :=
  match session.locate path with
  | .error fault => session.fail (.path fault)
  | .ok path =>
      let fingerprint := Fingerprint.ofState (session.around.find path)
      ⟨{ session with fingerprint := some fingerprint }, .ok (.fingerprint fingerprint), []⟩

/-- The path of a watcher. Without a baseline the fingerprint is taken there, so it has to lead
somewhere. -/
def watchedPath (path : Text) (baseline : Option Fingerprint) : Except PathFault Path :=
  let path := session.around.expand path
  if baseline.isSome then path else path.bind Path.ifPossible

/-- A watcher for the router in use, in the place of the one there is. -/
def watch (place : Nat) (path : Text) (baseline : Option Fingerprint) : Outcome :=
  match session.watchedPath path baseline with
  | .error fault => session.fail (.path fault)
  | .ok path =>
      let memory := baseline.getD (Fingerprint.ofState (session.around.find path))
      let reloader : Reloader := ⟨path, session.around.resolve path, memory⟩
      let watcher : Watcher := { reloader, interval := ['0'] }
      ⟨{ session with
          watched := some ⟨watcher, place⟩
          replaced := session.replaced ++ session.watched.toList },
        .ok (.running watcher.polling.isRunning), []⟩

/-- What a check replies. -/
def checkReply (check : Check) : Except StepFault Reply :=
  match check.result with
  | .failed fault => .error (.setup fault)
  | .replaced _ => .ok (.checked true)
  | _ => .ok (.checked false)

/-- A check of a watcher, given what each look at the file finds. -/
def checkWith (watched : Watched) (looks : Looks) : Outcome :=
  let check := watched.watcher.reloader.check looks
  let watcher := { watched.watcher with reloader := check.reloader }
  let session := session.putNew watched.router (Watcher.newTables? check)
  ⟨{ session with watched := some { watched with watcher } }, checkReply check, check.notices⟩

/-- A check of a watcher during which the file stays as it is. -/
def check (watched : Watched) : Outcome :=
  session.checkWith watched (.steady (session.watchedState watched))

/-- The session with a watcher changed. -/
def withWatcher (watched : Watched) (watcher : Watcher) : Session :=
  { session with watched := some { watched with watcher } }

/-- The reply that tells whether a watcher polls. -/
def runningReply (watcher : Watcher) : Except StepFault Reply :=
  .ok (.running watcher.polling.isRunning)

/-- Polling started. -/
def start (session : Session) (notices : List Notice) (watched : Watched) : Outcome :=
  let watcher := watched.watcher.start
  ⟨session.withWatcher watched watcher, runningReply watcher, notices ++ [watcher.startNotice]⟩

/-- Polling stopped. -/
def stop (watched : Watched) : Outcome :=
  let watcher := watched.watcher.stop
  ⟨session.withWatcher watched watcher, runningReply watcher, []⟩

/-- Settings for reloading that are given as a document; the built-in ones if none are. -/
def reloadSettings : Option Datum -> Checked ReloadSettings
  | none => .ok {}
  | some value => ReloadSettings.check value

/-- A hook on a new router. -/
def createHook (settings reload : Option Datum) (path : Option Text) : Outcome :=
  match routerSettings settings with
  | .error problems => session.fail (.settings problems)
  | .ok settings =>
      let notices := Tables.buildNotices settings
      match Tables.build settings with
      | .error fault => session.fail (.setup (.build fault)) notices
      | .ok tables =>
          match reloadSettings reload with
          | .error problems => session.fail (.settings problems) notices
          | .ok reload =>
              let paths := path.map fun path =>
                let expanded := (session.around.expand path).toOption.getD (Path.ofText path)
                (expanded, session.around.resolve expanded)
              ⟨{ session with hook := some { tables, path := paths, reload } }, .ok .done, notices⟩

/-- A hook for the settings of a file. -/
def loadHook (path : Option Text) : Outcome :=
  match Hook.start session.around path with
  | (.ok hook, notices) => ⟨{ session with hook := some hook }, .ok .done, notices⟩
  | (.error (.path fault), notices) => session.fail (.path fault) notices
  | (.error (.setup fault), notices) => session.fail (.setup fault) notices
  | (.error (.status fault), notices) => session.fail (.routing fault) notices

/-- What is found at the path of the settings file of a hook. -/
def hookState (hook : Hook) : FileState :=
  match hook.path with
  | none => .absent
  | some (path, _) => session.around.find path

/-- A call of a hook. -/
def callHook (session : Session) (notices : List Notice) (hook : Hook) (call : HookCall) :
    Outcome :=
  let turn := hook.call (session.hookState hook) call
  let session := { session with hook := some turn.hook }
  let notices := notices ++ turn.notices
  let hasWatcher := turn.hook.watcher.isSome
  match turn.answer with
  | .passed => session.answer (.passed call.request true hasWatcher) notices
  | .routed request => session.answer (.passed request false hasWatcher) notices
  | .failed fault => session.fail (.routing fault) notices

/-- A check of a hook. -/
def checkHook (hook : Hook) : Outcome :=
  match hook.check? (.steady (session.hookState hook)) with
  | none => session.answer (.lacking .hookWatcher)
  | some (hook, check) =>
      ⟨{ session with hook := some hook }, checkReply check, check.notices⟩

/-- A step that needs a router, given its place and its tables. -/
def withRouter (next : Nat -> Live -> Outcome) : Outcome :=
  match session.current, session.live? with
  | some place, some live => next place live
  | _, _ => session.answer (.lacking .router)

/-- A step that needs a watcher. -/
def withWatched (next : Watched -> Outcome) : Outcome :=
  match session.watched with
  | some watched => next watched
  | none => session.answer (.lacking .watcher)

/-- A step that needs a hook. -/
def withHook (next : Hook -> Outcome) : Outcome :=
  match session.hook with
  | some hook => next hook
  | none => session.answer (.lacking .hook)

/-- A step of a session. -/
def perform : Action -> Outcome
  | .write path content stamp =>
      session.change path (FileState.write (session.stampOr stamp) content)
  | .touch path stamp => session.change path (FileState.touch (session.stampOr stamp))
  | .delete path => session.change path FileState.remove
  | .makeDirectory path stamp =>
      session.change path (FileState.makeDirectory (session.stampOr stamp))
  | .create settings => session.create settings
  | .load path => session.loadRouter path
  | .reload settings => session.withRouter fun place _ => session.reload place settings
  | .hold => session.withRouter fun _ live => ⟨{ session with held := some live }, .ok .done, []⟩
  | .held message =>
      session.withRouter fun _ live =>
        match session.held with
        | none => session.answer (.lacking .tables)
        | some held => session.answer (heldReply live held message)
  | .decide message =>
      session.withRouter fun _ live =>
        session.answerRouting (live.tables.decide message) .decision Decision.ruleNotices
  | .classify message =>
      session.withRouter fun _ live => session.answer (.category (live.tables.classify message))
  | .route request =>
      session.withRouter fun _ live =>
        session.answerRouting (live.tables.route request) .routed Tables.routedNotices
  | .status =>
      session.withRouter fun _ live =>
        session.answerRouting live.tables.status .status fun _ => []
  | .resolve category =>
      session.withRouter fun _ live => session.resolveCategory live.tables category
  | .isAutomatic request =>
      session.withRouter fun _ live =>
        session.answer (.automatic live.tables.autoModel (live.tables.isAutoRequest request))
  | .fingerprint path => session.takeFingerprint path
  | .watch path fromFingerprint =>
      session.withRouter fun place _ =>
        session.watch place path (if fromFingerprint then session.fingerprint else none)
  | .check => session.withWatched session.check
  | .start =>
      session.withWatched fun _ =>
        let (session, notices) := session.turn
        session.withWatched (session.start notices)
  | .tick =>
      session.withWatched fun _ =>
        let (session, notices) := session.turn
        session.withWatched fun watched => ⟨session, runningReply watched.watcher, notices⟩
  | .stop => session.withWatched session.stop
  | .createHook settings reload path => session.createHook settings reload path
  | .loadHook path => session.loadHook path
  | .callHook call =>
      session.withHook fun hook =>
        let (session, notices) := session.turn
        session.callHook notices hook call
  | .checkHook => session.withHook session.checkHook
  | .stopHook =>
      session.withHook fun hook =>
        ⟨{ session with hook := some hook.stop }, .ok (.watching false), []⟩

end Session
end Switchboard
