import Switchboard.Notice
import Switchboard.Routing.Tables

namespace Switchboard
namespace Tables

/-!
What building routing tables reports.

Rules hidden behind a length rule are reported as soon as the rules are compiled, whether or not
the tables are accepted in the end.
-/

variable [CharacterNames]

/-- The notices of building tables from given settings. -/
def buildNotices (settings : RouterSettings) : List Notice :=
  match rulesOf settings with
  | .error _ => []
  | .ok rules => rules.shadow?.toList.map .rulesHidden

/-- The notice of tables that replace others. -/
def replacedNotice (tables : Tables) : Notice :=
  .tablesReplaced tables.rules.rules.length tables.routing.length

end Tables
end Switchboard
