import Switchboard.Settings.Check
import Switchboard.Watch.Hook

namespace Switchboard

/-!
A session: files, a router, a reloader and a hook, changed step by step.

Routers keep their place once they have been made, so that a reloader goes on to serve the router
that it was made for when another one has taken its place.  Every set of tables that is put in
force has a number of its own, which tells it from equal ones.
-/

namespace Session

/-- The tables in force, and their number. -/
structure Live where
  tables : Tables
  number : Nat
deriving Repr, DecidableEq

/-- A watcher and the place of the router that it serves. -/
structure Watched where
  watcher : Watcher
  router : Nat
deriving Repr, DecidableEq

end Session

/-- The state of a session. -/
structure Session where
  home : Path
  others : Text -> Option Path := fun _ => none
  directory : Path
  files : Files := []
  /-- The time stamp of the next file that is written without one. -/
  clock : Int := 2000000000
  /-- The number of the next tables. -/
  nextNumber : Nat := 0
  /-- The routers in the order in which they were made. -/
  routers : List Session.Live := []
  /-- The place of the router in use. -/
  current : Option Nat := none
  held : Option Session.Live := none
  fingerprint : Option Fingerprint := none
  watched : Option Session.Watched := none
  /-- The watchers that others have taken the place of, whose loops may still be there. -/
  replaced : List Session.Watched := []
  hook : Option Hook := none

namespace Session

/-- What is lacking for a step. -/
inductive Lack where
  | router
  | tables
  | watcher
  | hook
  | hookWatcher
deriving Repr, DecidableEq

/-- Why a step fails. -/
inductive StepFault where
  | path (fault : PathFault)
  | file (path : Text) (fault : FileFault)
  | settings (problems : List Problem)
  | setup (fault : SetupFault)
  | routing (fault : RoutingFault)
deriving Repr, DecidableEq

/-- What a step comes to. -/
inductive Reply where
  | done
  | lacking (lack : Lack)
  | tables (tables : Tables)
  | held (isCurrent : Bool) (category low : Text)
  | decision (decision : Decision)
  | category (category : Text)
  | routed (routed : Routed)
  | status (text : String)
  | resolved (tier : Tier) (model : Text)
  | automatic (model : Text) (isAutomatic : Bool)
  | fingerprint (fingerprint : Fingerprint)
  | running (isRunning : Bool)
  | checked (isReplaced : Bool)
  | passed (request : Chat.Request) (isSame hasWatcher : Bool)
  | watching (hasWatcher : Bool)

/-- A session behind a step, what the step comes to and what it reports. -/
structure Outcome where
  session : Session
  reply : Except StepFault Reply
  notices : List Notice := []

variable (session : Session)

/-- A reply that changes nothing. -/
def answer (reply : Reply) (notices : List Notice := []) : Outcome := ⟨session, .ok reply, notices⟩

/-- A fault that changes nothing. -/
def fail (fault : StepFault) (notices : List Notice := []) : Outcome :=
  ⟨session, .error fault, notices⟩

/-- The surroundings of the session. -/
def around : Surroundings :=
  { home := session.home, others := session.others, directory := session.directory,
    files := session.files.find }

/-- The path that a text gives, if there can be something at it. -/
def locate (path : Text) : Except PathFault Path :=
  (session.around.expand path).bind Path.ifPossible

/-- The router in use. -/
def live? : Option Live := session.current.bind fun place => session.routers[place]?

/-- The session with new tables put in force for the router at a place. -/
def putTables (place : Nat) (tables : Tables) : Session :=
  { session with
    routers := session.routers.set place ⟨tables, session.nextNumber⟩
    nextNumber := session.nextNumber + 1 }

/-- The session with a new router in use. -/
def addRouter (tables : Tables) : Session :=
  { session with
    routers := session.routers ++ [⟨tables, session.nextNumber⟩]
    nextNumber := session.nextNumber + 1
    current := some session.routers.length }

/-- The session with tables put in force for a router, if there are any. -/
def putNew (place : Nat) : Option Tables -> Session
  | none => session
  | some tables => session.putTables place tables

/-- The settings of a router that are given as a document; the built-in ones if none are. -/
def routerSettings : Option Datum -> Checked RouterSettings
  | none => .ok {}
  | some value => RouterSettings.check value

/-- What is found at the path of a watcher. -/
def watchedState (watched : Watched) : FileState :=
  session.around.find watched.watcher.reloader.path

variable [CharacterNames] [DocumentReader]

/-- A turn of the loops of a watcher. -/
def turnOf (watched : Watched) : Watched × Session × List Notice :=
  let turn := watched.watcher.turn (session.watchedState watched)
  ({ watched with watcher := turn.watcher }, session.putNew watched.router turn.tables,
    turn.notices)

/-- A turn of the loops of watchers, one watcher after the other. -/
def turnOfAll (session : Session) : List Watched -> List Watched × Session × List Notice
  | [] => ([], session, [])
  | watched :: rest =>
      let (watched, session, notices) := session.turnOf watched
      let (rest, session, more) := turnOfAll session rest
      (watched :: rest, session, notices ++ more)

/-- A turn of all loops that wait: those of replaced watchers first. -/
def turn : Session × List Notice :=
  let (replaced, session, notices) := turnOfAll session session.replaced
  let session := { session with replaced }
  match session.watched with
  | none => (session, notices)
  | some watched =>
      let (watched, session, more) := session.turnOf watched
      ({ session with watched := some watched }, notices ++ more)

end Session
end Switchboard
