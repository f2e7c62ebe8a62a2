import Switchboard.Routing.Building
import Switchboard.Settings.Load
import Switchboard.Watch.Fingerprint

namespace Switchboard

/-!
Following a settings file.

A reloader remembers the fingerprint of its file.  A check looks at the time stamp first and reads
the file only if the stamp is another one; it loads the settings only if the content is another
one.  What a check learns on the way it remembers, also if it goes no further.  Settings that are
refused leave the routing tables as they are.

A check looks at the file four times: for the stamp, for the digest, for whether it is there, and
for the settings.  The file may change in between, so each look has a state of its own.
-/

/-- Why there are no routing tables for a file. -/
inductive SetupFault where
  | load (fault : LoadFault)
  | build (fault : BuildFault)
deriving Repr, DecidableEq

namespace SetupFault

/-- Whether a fault is one of the settings as such. -/
def isOfSettings : SetupFault -> Bool
  | load fault => fault.isOfSettings
  | build fault => fault.isOfSettings

/-- The wording of a fault. -/
def message : SetupFault -> String
  | load fault => fault.message
  | build fault => fault.message

end SetupFault

variable [CharacterNames] [DocumentReader]

namespace Tables

/-- The tables for what is found at a path. -/
def ofFile (resolved : Path) (found opened : FileState) : Except SetupFault Tables :=
  match Settings.load resolved found opened with
  | .error fault => .error (.load fault)
  | .ok settings =>
      match build settings.router with
      | .error fault => .error (.build fault)
      | .ok tables => .ok tables

/-- What is reported when tables are replaced by those for given settings. -/
def reloadNotices (settings : RouterSettings) : List Notice :=
  buildNotices settings ++
    match build settings with
    | .ok tables => [replacedNotice tables]
    | .error _ => []

/-- What is reported when tables are replaced by those for what is found at a path. -/
def reloadFileNotices (path resolved : Path) (found opened : FileState) : List Notice :=
  Settings.loadNotices path found ++
    match Settings.load resolved found opened with
    | .ok settings => reloadNotices settings.router
    | .error _ => []

end Tables

/-- What a check comes to. -/
inductive CheckResult where
  /-- There is nothing new to load. -/
  | unchanged
  | replaced (tables : Tables)
  /-- The new settings are refused; the tables stay. -/
  | rejected (fault : SetupFault)
  /-- The check breaks off with a fault that is not one of the settings; the tables stay. -/
  | failed (fault : SetupFault)
deriving Repr, DecidableEq

/-- What follows a file. -/
structure Reloader where
  /-- The path as it is given. -/
  path : Path
  /-- The path from the root. -/
  resolved : Path
  memory : Fingerprint
deriving Repr, DecidableEq

/-- A check: the reloader behind it, what it comes to and what it reports. -/
structure Check where
  reloader : Reloader
  result : CheckResult
  notices : List Notice

/-- The states of a file at the four looks of a check. -/
structure Looks where
  forStamp : FileState
  forDigest : FileState
  forPresence : FileState
  forSettings : FileState

/-- The looks of a check during which the file stays as it is. -/
def Looks.steady (state : FileState) : Looks := ⟨state, state, state, state⟩

namespace Reloader

/-- The outcome of loading new settings. -/
def reload (reloader : Reloader) (found opened : FileState) : Check :=
  let notices := Tables.reloadFileNotices reloader.path reloader.resolved found opened
  match Tables.ofFile reloader.resolved found opened with
  | .ok tables => ⟨reloader, .replaced tables, notices⟩
  | .error fault =>
      if fault.isOfSettings then
        ⟨reloader, .rejected fault,
          notices ++ [.changeRejected reloader.path.text fault.message]⟩
      else ⟨reloader, .failed fault, notices⟩

/-- The reloader with another time stamp remembered. -/
def withStamp (reloader : Reloader) (stamp : Int) : Reloader :=
  { reloader with memory := { reloader.memory with stamp := some stamp } }

/-- The reloader with another digest remembered. -/
def withDigest (reloader : Reloader) (digest : Text) : Reloader :=
  { reloader with memory := { reloader.memory with digest := some digest } }

/-- A check, given what each look at the file finds. -/
def check (reloader : Reloader) (looks : Looks) : Check :=
  match looks.forStamp.stamp? with
  | none => ⟨reloader, .unchanged, []⟩
  | some stamp =>
      if reloader.memory.stamp = some stamp then ⟨reloader, .unchanged, []⟩
      else
        let reloader := reloader.withStamp stamp
        match looks.forDigest.content? with
        | none => ⟨reloader, .unchanged, []⟩
        | some content =>
            let digest := Digest.ofBytes content
            if reloader.memory.digest = some digest then ⟨reloader, .unchanged, []⟩
            else (reloader.withDigest digest).reload looks.forPresence looks.forSettings

/-- A check during which the file stays as it is. -/
def checkNow (reloader : Reloader) (state : FileState) : Check := reloader.check (.steady state)

end Reloader
end Switchboard
