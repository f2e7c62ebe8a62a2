import Switchboard.Number.Binary
import Switchboard.Number.Shortest
import Switchboard.Text.Quoted

namespace Switchboard

/-!
The values that a settings document holds.

Keys of a mapping may be of any simple type.  Two keys are the same when they are equal as values,
and truth values count as the numbers one and zero; a mapping holds a key once, at the place
where it came first, with the value that came last.
-/

/-- A day of the calendar. -/
structure Day where
  year : Nat
  month : Nat
  day : Nat
deriving Repr, DecidableEq

/-- A time of a day, and its distance from universal time in minutes if it is known. -/
structure Clock where
  hour : Nat
  minute : Nat
  second : Nat
  microsecond : Nat
  offset : Option Int
deriving Repr, DecidableEq

/-- A value of a document. -/
inductive Datum where
  | null
  | bool (value : Bool)
  | int (value : Int)
  | float (value : Binary)
  | text (value : Text)
  | bytes (value : List UInt8)
  | date (day : Day)
  | moment (day : Day) (clock : Clock)
  | pair (first second : Datum)
  | list (items : List Datum)
  | set (items : List Datum)
  | map (entries : List (Datum × Datum))
deriving Inhabited

namespace Datum

/-- The whole number that a value counts as when keys are compared. -/
def wholeNumber? : Datum -> Option Int
  | bool value => some (if value then 1 else 0)
  | int value => some value
  | float value => value.toInt?
  | _ => none

/-- Whether two keys are the same. -/
def sameKey (a b : Datum) : Bool :=
  match a.wholeNumber?, b.wholeNumber? with
  | some m, some n => m == n
  | _, _ =>
      match a, b with
      | null, null => true
      | float x, float y => x.equals y
      | text s, text t => s == t
      | bytes s, bytes t => s == t
      | date s, date t => s == t
      | moment s c, moment t d => s == t && c == d
      | _, _ => false

/-- Entries with a key set to a value. -/
def setKey : List (Datum × Datum) -> Datum -> Datum -> List (Datum × Datum)
  | [], key, value => [(key, value)]
  | (k, old) :: rest, key, value =>
      if k.sameKey key then (k, value) :: rest else (k, old) :: setKey rest key value

/-- The value of a text key. -/
def field? (name : Text) : List (Datum × Datum) -> Option Datum
  | [] => none
  | (text key, value) :: rest => if key = name then some value else field? name rest
  | _ :: rest => field? name rest

/-- Whether a document of this value counts as an empty one. -/
def isEmpty : Datum -> Bool
  | null => true
  | bool value => !value
  | int value => value == 0
  | float value => value.isZero
  | text value => value.isEmpty
  | bytes value => value.isEmpty
  | list items => items.isEmpty
  | set items => items.isEmpty
  | map entries => entries.isEmpty
  | _ => false

/-- The name of the type of a value. -/
def typeName : Datum -> String
  | null => "NoneType"
  | bool _ => "bool"
  | int _ => "int"
  | float _ => "float"
  | text _ => "str"
  | bytes _ => "bytes"
  | date _ => "date"
  | moment _ _ => "datetime"
  | pair _ _ => "tuple"
  | list _ => "list"
  | set _ => "set"
  | map _ => "dict"

/-- How bytes are shown. -/
def showByte (byte : UInt8) : Text :=
  let c := Char.ofNat byte.toNat
  if c = '\'' || c = '\\' then ['\\', c]
  else if c = '\t' then ['\\', 't']
  else if c = '\n' then ['\\', 'n']
  else if c = '\r' then ['\\', 'r']
  else if 0x20 <= byte.toNat && byte.toNat < 0x7F then [c]
  else '\\' :: 'x' :: Text.hexDigits 2 byte.toNat

/-- How a key is shown that is neither a text nor a whole number. -/
def shown : Datum -> Text
  | null => Text.ofString "None"
  | bool value => Text.ofString (if value then "True" else "False")
  | int value => Text.ofString (toString value)
  | float value => value.text
  | text value => Text.quoted value
  | bytes value => 'b' :: '\'' :: value.flatMap showByte ++ ['\'']
  | date day => Text.ofString s!"datetime.date({day.year}, {day.month}, {day.day})"
  | moment day clock =>
      Text.ofString
        s!"datetime.datetime({day.year}, {day.month}, {day.day}, {clock.hour}, {clock.minute})"
  | pair first second =>
      '(' :: first.shown ++ Text.ofString ", " ++ second.shown ++ [')']
  | list _ => Text.ofString "[...]"
  | set _ => Text.ofString "\x7b...\x7d"
  | map _ => Text.ofString "\x7b...\x7d"

end Datum
end Switchboard
