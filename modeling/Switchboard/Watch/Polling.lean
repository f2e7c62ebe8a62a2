import Switchboard.Watch.Reloader

namespace Switchboard

/-!
Checking a settings file again and again.

Polling is done by loops.  A loop waits and checks in turn, and ends when it finds after a check
that polling has been stopped.  Starting begins a new loop, also if one is there already; stopping
ends the loop that was begun last, at once.  A loop that was left behind by a second start is not
ended by stopping: it checks once more when its wait is over.
-/

/-- The loops that poll a file, all of them waiting. -/
structure Polling where
  /-- Whether polling has been started and not stopped since. -/
  isRunning : Bool := false
  /-- Whether the loop begun last is there. -/
  hasLoop : Bool := false
  /-- The count of loops left behind. -/
  leftBehind : Nat := 0
deriving Repr, DecidableEq

namespace Polling

/-- The count of loops. -/
def loops (polling : Polling) : Nat := polling.leftBehind + if polling.hasLoop then 1 else 0

/-- Polling started. -/
def start (polling : Polling) : Polling := ⟨true, true, polling.loops⟩

/-- Polling stopped. -/
def stop (polling : Polling) : Polling := ⟨false, false, polling.leftBehind⟩

/-- Polling after every loop has had its turn. -/
def afterTurn (polling : Polling) : Polling :=
  if polling.isRunning then polling else { polling with hasLoop := false, leftBehind := 0 }

end Polling

/-- A reloader and its loops. -/
structure Watcher where
  reloader : Reloader
  /-- The wait of a loop in seconds, as it is shown. -/
  interval : Text
  polling : Polling := {}
deriving Repr, DecidableEq

/-- A watcher after a step, the tables that it has put in force, and what it reports. -/
structure Turn where
  watcher : Watcher
  tables : Option Tables
  notices : List Notice

namespace Watcher

/-- Polling started. -/
def start (watcher : Watcher) : Watcher := { watcher with polling := watcher.polling.start }

/-- Polling stopped. -/
def stop (watcher : Watcher) : Watcher := { watcher with polling := watcher.polling.stop }

/-- What is reported when polling is started. -/
def startNotice (watcher : Watcher) : Notice :=
  .watchStarted watcher.reloader.path.text watcher.interval

/-- What a loop reports about a check. -/
def pollNotices (check : Check) : List Notice :=
  check.notices ++
    match check.result with
    | .failed fault => [.checkFailed fault.message]
    | _ => []

/-- The tables that a check has put in force. -/
def newTables? (check : Check) : Option Tables :=
  match check.result with
  | .replaced tables => some tables
  | _ => none

variable [CharacterNames] [DocumentReader]

/-- A turn of a count of loops, one after the other. -/
def turns : Nat -> Watcher -> FileState -> Turn
  | 0, watcher, _ => ⟨watcher, none, []⟩
  | count + 1, watcher, state =>
      let check := watcher.reloader.checkNow state
      let rest := turns count { watcher with reloader := check.reloader } state
      ⟨rest.watcher, rest.tables.or (newTables? check), pollNotices check ++ rest.notices⟩

/-- A turn of every loop: each one checks, and ends if polling has been stopped. -/
def turn (watcher : Watcher) (state : FileState) : Turn :=
  let done := turns watcher.polling.loops watcher state
  { done with watcher := { done.watcher with polling := watcher.polling.afterTurn } }

end Watcher
end Switchboard
