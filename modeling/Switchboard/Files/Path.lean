import Switchboard.Text.Basic

namespace Switchboard

/-!
Paths of files.

A path starts where one is or at a root, and goes on by names.  Repeated slashes, slashes at the
end and names of a single dot do not count; two slashes at the very start, no more and no fewer,
are kept.  A tilde in front stands for a home directory: one's own, or that of the user who is named
behind it.

No name of a file holds the character zero.  Nothing is found at a path with such a name, and asking
for more than whether something is there fails.
-/

/-- Where a path starts. -/
inductive PathStart where
  /-- The directory one is in. -/
  | here
  | root
  /-- A root written with two slashes. -/
  | doubleRoot
deriving Repr, DecidableEq

/-- A path. -/
structure Path where
  start : PathStart
  names : List Text
deriving Repr, DecidableEq

/-- Why a path leads nowhere. -/
inductive PathFault where
  /-- The home directory that a path asks for is not known. -/
  | noHome
  /-- A name holds the character zero. -/
  | zeroCharacter
deriving Repr, DecidableEq

/-- The wording of a fault. -/
def PathFault.message : PathFault -> String
  | noHome => "Could not determine home directory."
  | zeroCharacter => "embedded null byte"

namespace Path

/-- Where a text starts as a path. -/
def startOf (text : Text) : PathStart :=
  match (text.takeWhile (· == '/')).length with
  | 0 => .here
  | 2 => .doubleRoot
  | _ => .root

/-- Whether a name counts. -/
def counts (name : Text) : Bool := !name.isEmpty && name != ['.']

/-- The path that a text gives. -/
def ofText (text : Text) : Path := ⟨startOf text, (Text.splitOn '/' text).filter counts⟩

/-- The text of a start. -/
def startText : PathStart -> Text
  | .here => []
  | .root => ['/']
  | .doubleRoot => ['/', '/']

/-- The text of a path. -/
def text (path : Path) : Text :=
  if path.start = .here && path.names.isEmpty then ['.']
  else startText path.start ++ Text.joinWith ['/'] path.names

/-- A path with a home directory in the place of a tilde in front, given one's own and those of
others. -/
def expandHome (path home : Path) (others : Text -> Option Path) : Except PathFault Path :=
  match path.start, path.names with
  | .here, ('~' :: user) :: names =>
      match if user.isEmpty then some home else others user with
      | some home => .ok { home with names := home.names ++ names }
      | none => .error .noHome
  | _, _ => .ok path

/-- Whether there can be something at a path. -/
def isPossible (path : Path) : Bool := path.names.all fun name => !name.contains '\x00'

/-- The path, if there can be something at it. -/
def ifPossible (path : Path) : Except PathFault Path :=
  if path.isPossible then .ok path else .error .zeroCharacter

/-- Names with each step up taken back together with the step before it, the names so far being
in reverse. -/
def collapse : List Text -> List Text -> List Text
  | done, [] => done.reverse
  | done, name :: names =>
      if name = ['.', '.'] then collapse (done.drop 1) names else collapse (name :: done) names

/-- The path from the root to where a path leads from a directory, by way of every name. -/
def absolute (path directory : Path) : Path :=
  match path.start with
  | .here => ⟨.root, directory.names ++ path.names⟩
  | _ => ⟨.root, path.names⟩

/-- The path from the root to where a path leads from a directory, steps up being taken back. -/
def resolve (path directory : Path) : Path :=
  ⟨.root, collapse [] (path.absolute directory).names⟩

/-- Whether a path is a directory or leads into it. -/
def isUnder (directory path : Path) : Bool :=
  path.start == directory.start && path.names.take directory.names.length == directory.names

end Path

end Switchboard
