import Switchboard.Text.Basic

namespace Switchboard

/-!
The values that chat requests are made of.

An object keeps its members in order, and a member is found by the first occurrence of its key.
Numbers only pass through the router, so a whole number and a decimal fraction are kept apart and
as they were given.
-/

/-- A value of a chat request. -/
inductive Json where
  | null
  | bool (value : Bool)
  | integer (value : Int)
  /-- The decimal fraction `mantissa * 10 ^ exponent`. -/
  | decimal (mantissa exponent : Int)
  | text (value : Text)
  | array (items : List Json)
  | object (members : List (Text × Json))
deriving Inhabited

namespace Json

/-- The members of an object. -/
abbrev Members := List (Text × Json)

/-- The value of a key. -/
def member? (members : Members) (key : Text) : Option Json := members.lookup key

/-- The members with a key set to a value: in place where the key occurs, at the end otherwise. -/
def setMember : Members -> Text -> Json -> Members
  | [], key, value => [(key, value)]
  | (k, old) :: rest, key, value =>
      if k = key then (k, value) :: rest else (k, old) :: setMember rest key value

end Json
end Switchboard
