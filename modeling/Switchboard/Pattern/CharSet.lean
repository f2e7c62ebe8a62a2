import Switchboard.Pattern.Escape

namespace Switchboard
namespace Pattern

/-!
Character sets: members between brackets.

A closing bracket is a member when it comes first, and a hyphen is one when it comes first or
last.  A set of one character is that character.
-/

namespace CharSet

variable [CharacterNames]

/-- What a token stands for in a set. -/
def member (token : Token) : Read Member :=
  if token.escaped then Escape.inSet token.char else return .one token.char.toNat

/-- The range between two members; both have to be characters. -/
def range (first last : Member) (firstToken lastToken : Token) : Read Member := do
  let back := firstToken.written.length + 1 + lastToken.written.length
  let refuse : Read Member :=
    Read.fail (.badRange firstToken.written lastToken.written) back
  match first, last with
  | .one low, .one high => if high < low then refuse else return .range low high
  | _, _ => refuse

/-- The members of a set that was opened at a position, given those read so far, the latest first;
at most a given number of members is read. -/
def members (opened : Nat) : Nat -> List Member -> Read (List Member)
  | 0, _ => Read.failAt .unterminatedSet opened
  | count + 1, found => do
      match <- Read.take with
      | none => Read.failAt .unterminatedSet opened
      | some token =>
          if token.isPlain (· == ']') && !found.isEmpty then return found.reverse
          else
            let first <- member token
            if <- Read.accept '-' then
              match <- Read.take with
              | none => Read.failAt .unterminatedSet opened
              | some last =>
                  if last.isPlain (· == ']') then
                    return (Member.one '-'.toNat :: first :: found).reverse
                  else
                    let second <- member last
                    members opened count ((<- range first second token last) :: found)
            else members opened count (first :: found)

/-- The node of a set. -/
def node (members : List Member) (negated : Bool) : Node :=
  match members.eraseDups with
  | [.one code] => .char code negated
  | _ => .set members negated

/-- A set whose opening bracket is read. -/
def read : Read Node := do
  let opened := (<- get).position - 1
  let negated <- Read.accept '^'
  let found <- members opened ((<- get).rest.length + 1) []
  return node found negated

end CharSet

namespace Switch

/-- The letters of the mode switches. -/
def letters : List Char := ['i', 'L', 'm', 's', 'x', 'a', 't', 'u']

/-- The switches of which at most one is in force. -/
def types : List Char := ['a', 'L', 'u']

/-- Whether a token is a switch. -/
def isSwitch (token : Token) : Bool := token.isPlain letters.contains

/-- Refusal of a token in the place of a switch. -/
def refuse (token : Token) (otherwise : Problem) : Read α :=
  Read.fail (if token.isPlain Text.isLetter then .unknownSwitch else otherwise)
    token.written.length

/-- Adds the switch of a letter to those turned on. -/
def turnOn (letter : Char) (on : Switches) : Read Switches := do
  if letter = 'L' then Read.fail .localeSwitch 0
  else
    let on := on ++ [letter]
    if types.contains letter && on.any (fun other => types.contains other && other != letter) then
      Read.fail .incompatibleSwitches 0
    else return on

/-- The switches turned on, of which the given letter is the next one, and the mark that ends
them. -/
def turnedOn : Nat -> Char -> Switches -> Read (Switches × Char)
  | 0, _, _ => Read.fail .missingSwitchEnd 0
  | count + 1, letter, on => do
      let on <- turnOn letter on
      match <- Read.take with
      | none => Read.fail .missingSwitchEnd 0
      | some token =>
          if token.isPlain [')', '-', ':'].contains then return (on, token.char)
          else if isSwitch token then turnedOn count token.char on
          else refuse token .missingSwitchEnd

/-- The switches turned off, of which the given letter is the next one. -/
def turnedOff : Nat -> Char -> Switches -> Read Switches
  | 0, _, _ => Read.fail .missingColon 0
  | count + 1, letter, off => do
      if types.contains letter then Read.fail .typeTurnedOff 0
      let off := off ++ [letter]
      match <- Read.take with
      | none => Read.fail .missingColon 0
      | some token =>
          if token.isPlain (· == ':') then return off
          else if isSwitch token then turnedOff count token.char off
          else refuse token .missingColon

/-- The switches of a group, whose first character is read.  Switches for the whole pattern go into
the reader and leave no change for the group. -/
def read (first : Char) : Read (Option ModeChange) := do
  let count := (<- get).rest.length + 1
  let (on, mark) <- if first = '-' then pure ([], '-') else turnedOn count first []
  if mark = ')' then
    modify fun reader => { reader with switches := reader.switches ++ on }
    return none
  else
    if on.contains 't' then Read.fail .globalTurnedOn 1
    if mark = '-' then
      match <- Read.take with
      | none => Read.fail .missingSwitch 0
      | some token =>
          if !isSwitch token then refuse token .missingSwitch
          let off <- turnedOff count token.char []
          if off.contains 't' then Read.fail .globalTurnedOff 1
          if on.any off.contains then Read.fail .turnedOnAndOff 1
          return some ⟨on, off⟩
    else return some ⟨on, []⟩

end Switch
end Pattern
end Switchboard
