import Switchboard.Text.Quoted

namespace Switchboard

/-!
The three tiers of models, ordered by cost and capability.

A tier has a name, used in documents and in output, and a rank.  The words that a user may put
between brackets to pick a tier are its aliases; they are not the names of the tiers.
-/

/-- A cost and capability tier. -/
inductive Tier where
  | low
  | mid
  | top
deriving Repr, DecidableEq, Inhabited

namespace Tier

/-- The tiers from the cheapest to the most capable. -/
def all : List Tier := [low, mid, top]

/-- The name of a tier in documents and in output. -/
def name : Tier -> Text
  | low => Text.ofString "low"
  | mid => Text.ofString "mid"
  | top => Text.ofString "top"

/-- The place of a tier in the order. -/
def rank : Tier -> Nat
  | low => 0
  | mid => 1
  | top => 2

/-- The tier of a name; names are exact, letter case included. -/
def ofName? (name : Text) : Option Tier := all.find? fun tier => tier.name == name

/-- Whether a tier is cheaper than another. -/
def isBelow (a b : Tier) : Bool := a.rank < b.rank

/-- Whether the name of a tier comes before a text in the order of code points. A text that is
no tier has no rank, so the names are all there is to compare. -/
def nameIsBefore (tier : Tier) (text : Text) : Bool := decide (tier.name < text)

/-- Why a name is refused. -/
def refusal (name : Text) : String := s!"{(Text.quoted name).toStr} is not a valid Tier"

/-- The words that pick a tier from within a message. -/
def aliases : List (Text × Tier) :=
  [(Text.ofString "low", low), (Text.ofString "med", mid), (Text.ofString "medium", mid),
   (Text.ofString "high", top)]

/-- The tier that an alias picks. -/
def ofAlias? (word : Text) : Option Tier := aliases.lookup word

end Tier
end Switchboard
