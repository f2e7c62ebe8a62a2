import Switchboard.Text.Quoted

namespace Switchboard

/-!
What can go wrong while a message is routed.

Both faults are look-ups that fail: a bracketed word that is recognised as a tag and yet is no
alias of a tier, and a category that the routing table does not hold.
-/

/-- A look-up that fails while a message is routed. -/
inductive RoutingFault where
  /-- The lower-case form of a recognised tag is no alias of a tier. -/
  | unknownTag (name : Text)
  /-- The routing table has no entry for the category. -/
  | unknownCategory (name : Text)
deriving Repr, DecidableEq

/-- The key that was not found, quoted. -/
def RoutingFault.message : RoutingFault -> String
  | unknownTag name => (Text.quoted name).toStr
  | unknownCategory name => (Text.quoted name).toStr

end Switchboard
