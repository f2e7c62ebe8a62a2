import Switchboard.Document.Datum
import Switchboard.Document.Fault

namespace Switchboard

/-!
Readers of documents.

Settings are loaded with the reader that the surroundings bring along, and what is said about
loading holds for any reader.
-/

/-- A reader of documents. -/
class DocumentReader where
  /-- The value that a text gives. -/
  read : Text -> Except Document.Fault Datum

end Switchboard
