import Switchboard.Document.Value
import Switchboard.Files.State
import Switchboard.Notice
import Switchboard.Settings.Check

namespace Switchboard

/-!
Settings from a file.

A path at which nothing is found gives the built-in settings.  Otherwise the file is read as text,
the text as a document, and the document, which has to be a mapping, as settings.  An empty
document counts as an empty mapping.

Whether something is found and what is in it are asked one after the other, and the answers may
belong to different moments.
-/

/-- Why settings cannot be loaded. -/
inductive LoadFault where
  /-- The file that was found is gone. -/
  | vanished (path : Text)
  | isDirectory (path : Text)
  | locked (path : Text)
  | undecodable (fault : Text.Utf8Fault)
  /-- The text is no document. -/
  | unparsable (path : Text)
  /-- A value of the document stands for nothing. -/
  | unreadable (fault : Document.Fault)
  | notMapping (path : Text) (found : String)
  /-- A key of the outermost mapping is no text. -/
  | keyNotText
  | invalid (path : Text) (problems : List Problem)
deriving Repr, DecidableEq

namespace LoadFault

/-- Whether a fault is one of the settings as such. -/
def isOfSettings : LoadFault -> Bool
  | unparsable _ => true
  | notMapping _ _ => true
  | invalid _ _ => true
  | _ => false

/-- The wording of a fault. -/
def message : LoadFault -> String
  | vanished path => FileFault.missing.message path
  | isDirectory path => FileFault.isDirectory.message path
  | locked path => FileFault.locked.message path
  | undecodable fault => fault.message
  | unparsable path => s!"Failed to parse {path.toStr}: {Document.Fault.malformed.message}"
  | unreadable fault => fault.message
  | notMapping path found => s!"{path.toStr}: top level must be a mapping, got {found}"
  | keyNotText => "keywords must be strings"
  | invalid path problems =>
      "\n".intercalate (s!"Invalid config {path.toStr}:" :: problems.map Problem.message)

end LoadFault

namespace Settings

/-- Whether a key is a text. -/
def isTextKey : Datum -> Bool
  | .text _ => true
  | _ => false

/-- The settings of a document, whose path is given for the wording of faults. -/
def ofDocument (path : Text) (document : Datum) : Except LoadFault Settings :=
  match if document.isEmpty then .map [] else document with
  | .map entries =>
      if entries.any fun entry => !isTextKey entry.1 then .error .keyNotText
      else
        match check (.map entries) with
        | .ok settings => .ok settings
        | .error problems => .error (.invalid path problems)
  | other => .error (.notMapping path other.typeName)

variable [DocumentReader]

/-- The settings of a text. -/
def ofText (path text : Text) : Except LoadFault Settings :=
  match DocumentReader.read text with
  | .ok document => ofDocument path document
  | .error .malformed => .error (.unparsable path)
  | .error fault => .error (.unreadable fault)

/-- The settings of the content of a file. The whole content is decoded before it is read as a
document, so a byte that is no text is reported before any fault of form. -/
def ofContent (path : Text) (content : List UInt8) : Except LoadFault Settings :=
  match Text.decodeUtf8 content with
  | .ok text => ofText path (Text.unifyLines text)
  | .error fault => .error (.undecodable fault)

/-- The settings of what is found when a file is opened. -/
def ofOpened (path : Text) : FileState -> Except LoadFault Settings
  | .absent => .error (.vanished path)
  | .directory _ => .error (.isDirectory path)
  | .locked _ => .error (.locked path)
  | .file _ content => ofContent path content

/-- The settings of a path, given the path from the root, what was found at first and what was
found when it was opened. -/
def load (resolved : Path) (found opened : FileState) : Except LoadFault Settings :=
  if found.isPresent then ofOpened resolved.text opened else .ok {}

/-- What is reported when settings are loaded from a path. -/
def loadNotices (path : Path) (found : FileState) : List Notice :=
  if found.isPresent then [] else [.fileMissing path.text]

end Settings
end Switchboard
