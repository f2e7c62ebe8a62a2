import Switchboard.Files.Path
import Switchboard.Text.Blank
import Switchboard.Text.Quoted

namespace Switchboard

/-!
What is found at a path, and where the settings are looked for.

A file and a directory have a time stamp.  Something may be there and yet not be readable.  A file
is written and removed as such: a directory in its place is left alone, and so is a file where a
directory is to be made.
-/

/-- Why something cannot be done at a path. -/
inductive FileFault where
  | missing
  | locked
  | present
  | isDirectory
deriving Repr, DecidableEq

/-- The wording of a fault at a path. -/
def FileFault.message (path : Text) (fault : FileFault) : String :=
  let what := match fault with
    | missing => "[Errno 2] No such file or directory"
    | locked => "[Errno 13] Permission denied"
    | present => "[Errno 17] File exists"
    | isDirectory => "[Errno 21] Is a directory"
  s!"{what}: {(Text.quoted path).toStr}"

/-- What is found at a path. -/
inductive FileState where
  | absent
  | directory (stamp : Int)
  /-- A file that must not be read. -/
  | locked (stamp : Int)
  | file (stamp : Int) (content : List UInt8)
deriving Repr, DecidableEq

namespace FileState

/-- Whether anything is found. -/
def isPresent : FileState -> Bool
  | absent => false
  | _ => true

/-- The time stamp of what is found. -/
def stamp? : FileState -> Option Int
  | absent => none
  | directory stamp => some stamp
  | locked stamp => some stamp
  | file stamp _ => some stamp

/-- The content of a file that can be read. -/
def content? : FileState -> Option (List UInt8)
  | file _ content => some content
  | _ => none

/-- What is found once a file has been written. -/
def write (stamp : Int) (content : List UInt8) : FileState -> Except FileFault FileState
  | directory _ => .error .isDirectory
  | _ => .ok (.file stamp content)

/-- What is found once something has been touched. Where nothing was an empty file is made. -/
def touch (stamp : Int) : FileState -> Except FileFault FileState
  | absent => .ok (.file stamp [])
  | directory _ => .ok (.directory stamp)
  | locked _ => .ok (.locked stamp)
  | file _ content => .ok (.file stamp content)

/-- What is found once a file has been removed. -/
def remove : FileState -> Except FileFault FileState
  | directory _ => .error .isDirectory
  | _ => .ok .absent

/-- What is found once a directory has been made. -/
def makeDirectory (stamp : Int) : FileState -> Except FileFault FileState
  | absent => .ok (.directory stamp)
  | directory _ => .ok (.directory stamp)
  | _ => .error .present

end FileState

/-- The files that there are. -/
abbrev Files := List (Path × FileState)

namespace Files

/-- What is found at a path that starts at the root and has no steps up. -/
def get (files : Files) (path : Path) : FileState := (files.lookup path).getD .absent

/-- The files with a state put at a path. -/
def put : Files -> Path -> FileState -> Files
  | [], path, state => [(path, state)]
  | (p, old) :: rest, path, state =>
      if p = path then (p, state) :: rest else (p, old) :: put rest path state

/-- Whether there is a directory at a path: it is one, or something is found in it. -/
def hasDirectory (files : Files) (path : Path) : Bool :=
  match files.get path with
  | .directory _ => true
  | .absent => files.any fun entry => Path.isUnder path entry.1 && entry.2.isPresent
  | _ => false

/-- What is found by way of names from the directory whose names are given in reverse. -/
def walk (files : Files) : List Text -> List Text -> FileState
  | done, [] => files.get ⟨.root, done.reverse⟩
  | done, name :: names =>
      if files.hasDirectory ⟨.root, done.reverse⟩ then
        walk files (if name = ['.', '.'] then done.drop 1 else name :: done) names
      else .absent

/-- What is found at a path that starts at the root. -/
def find (files : Files) (path : Path) : FileState := files.walk [] path.names

end Files

/-- What a program finds around itself. -/
structure Surroundings where
  home : Path
  /-- The home directories of other users by their names. -/
  others : Text -> Option Path := fun _ => none
  directory : Path
  /-- The path of the settings as the environment gives it. -/
  preset : Option Text := none
  /-- What is found at a path that starts at the root, by way of every name of it. -/
  files : Path -> FileState

namespace Surroundings

/-- The path of the settings where none is given. -/
def builtinPath : Path := ⟨.here, [Text.ofString "routing_rules.yaml"]⟩

/-- The path that a text gives. -/
def expand (around : Surroundings) (path : Text) : Except PathFault Path :=
  (Path.ofText path).expandHome around.home around.others

/-- The path of the settings: the one that is asked for, else the one of the environment, else the
built-in one. Empty texts give no path. -/
def settingsPath (around : Surroundings) (asked : Option Text) : Except PathFault Path :=
  match asked.filter (!·.isEmpty), (around.preset.map Text.trim).filter (!·.isEmpty) with
  | some path, _ => around.expand path
  | none, some path => around.expand path
  | none, none => .ok builtinPath

/-- The path from the root to where a path leads, as messages have it. -/
def resolve (around : Surroundings) (path : Path) : Path := path.resolve around.directory

/-- What is found at a path. -/
def find (around : Surroundings) (path : Path) : FileState :=
  if path.isPossible then around.files (path.absolute around.directory) else .absent

end Surroundings

end Switchboard
