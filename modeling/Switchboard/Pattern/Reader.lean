import Switchboard.Text.Blank
import Switchboard.Text.Identifier
import Switchboard.Pattern.Fault

namespace Switchboard
namespace Pattern

/-!
The unread part of a pattern.

A pattern is read in tokens, a token being one character or a backslash with the character after
it.  Reading looks one token ahead: a backslash that ends the pattern is refused as soon as it
would become the next token, whatever the tokens before it say.
-/

/-- One character, or a backslash and the character after it. -/
structure Token where
  escaped : Bool
  char : Char
deriving Repr, DecidableEq

/-- A token as it is written. -/
def Token.written (token : Token) : Text :=
  if token.escaped then ['\\', token.char] else [token.char]

/-- Whether a token is one unescaped character of a class. -/
def Token.isPlain (token : Token) (test : Char -> Bool) : Bool :=
  !token.escaped && test token.char

/-- What is known while a pattern is read. -/
structure Reader where
  rest : Text
  /-- The position of the next token. -/
  position : Nat
  /-- The switches turned on for the whole pattern. -/
  switches : Switches
  /-- The groups opened so far, the first one first; a group that is still open has no width. -/
  groups : List (Option Width)
  /-- The numbers of the named groups. -/
  names : List (Text × Nat)
  /-- Within a lookbehind, the number of the first group that belongs to it. -/
  lookbehindFrom : Option Nat
  /-- The group numbers that conditions ask about and where they first do, latest first. -/
  conditions : List (Nat × Nat)

/-- Reading a part of a pattern. -/
abbrev Read := StateT Reader (Except Fault)

namespace Read

/-- Refusal at a given position. -/
def failAt (problem : Problem) (position : Nat) : Read α :=
  throw (.malformed problem (some position))

/-- Refusal at a number of characters before the next token. -/
def fail (problem : Problem) (back : Nat) : Read α := do
  failAt problem ((<- get).position - back)

/-- The next token. -/
def next : Read (Option Token) := do
  match (<- get).rest with
  | [] => return none
  | '\\' :: c :: _ => return some ⟨true, c⟩
  | c :: _ => return some ⟨false, c⟩

/-- Moves on to the text after the next token. -/
def moveTo (rest : Text) (width : Nat) : Read Unit := do
  let reader <- get
  let position := reader.position + width
  match rest with
  | ['\\'] => failAt .escapeAtEnd position
  | _ => set { reader with rest := rest, position := position }

/-- Takes the next token. -/
def take : Read (Option Token) := do
  match (<- get).rest with
  | [] => return none
  | '\\' :: c :: rest => moveTo rest 2; return some ⟨true, c⟩
  | c :: rest => moveTo rest 1; return some ⟨false, c⟩

/-- Whether the next token is a given unescaped character. -/
def nextIs (c : Char) : Read Bool := do
  match <- next with
  | some token => return token.isPlain (· == c)
  | none => return false

/-- Takes the next token if it is a given unescaped character. -/
def accept (c : Char) : Read Bool := do
  if <- nextIs c then
    discard take
    return true
  else return false

/-- Takes at most a given number of unescaped characters of a class. -/
def takeWhile (test : Char -> Bool) : Nat -> Read Text
  | 0 => return []
  | count + 1 => do
      match <- next with
      | some token =>
          if token.isPlain test then
            discard take
            return token.char :: (<- takeWhile test count)
          else return []
      | none => return []

/-- Takes all unescaped characters of a class. -/
def takeAll (test : Char -> Bool) : Read Text := do takeWhile test (<- get).rest.length

/-- Takes the tokens up to a terminator and the terminator itself, and refuses an empty name; at
most a given number of tokens is taken. -/
def nameUpTo (terminator : Char) (what : String) : Nat -> Text -> Read Text
  | 0, _ => fail (.missingName what) 0
  | count + 1, taken => do
      match <- take with
      | none =>
          if taken.isEmpty then fail (.missingName what) 0
          else fail (.unterminatedName terminator) taken.length
      | some token =>
          if token.isPlain (· == terminator) then
            if taken.isEmpty then fail (.missingName what) 1 else return taken
          else nameUpTo terminator what count (taken ++ token.written)

/-- The name up to a terminator. -/
def name (terminator : Char) (what : String) : Read Text := do
  nameUpTo terminator what ((<- get).rest.length + 1) []

/-- Takes tokens until one of a class has been taken or the pattern ends. -/
def skipPast (stop : Char -> Bool) : Nat -> Read Unit
  | 0 => return ()
  | count + 1 => do
      match <- take with
      | none => return ()
      | some token => if token.isPlain stop then return () else skipPast stop count

end Read

/-- An octal digit. -/
def isOctal (c : Char) : Bool := '0' <= c && c <= '7'

/-- A hexadecimal digit. -/
def isHex (c : Char) : Bool :=
  c.isDigit || ('a' <= c && c <= 'f') || ('A' <= c && c <= 'F')

/-- The value of a digit in any base up to sixteen. -/
def digitValue (c : Char) : Nat :=
  if c.isDigit then c.toNat - '0'.toNat
  else if 'a' <= c then c.toNat - 'a'.toNat + 10
  else c.toNat - 'A'.toNat + 10

/-- The number that digits write in a base. -/
def numeral (base : Nat) (digits : Text) : Nat :=
  digits.foldl (fun value c => value * base + digitValue c) 0

namespace Reader

/-- The count of groups, the whole match included. -/
def groupCount (reader : Reader) : Nat := reader.groups.length + 1

/-- The width of a group that is closed. -/
def closedWidth? (reader : Reader) (number : Nat) : Option Width :=
  if number = 0 then none else (reader.groups[number - 1]?).join

end Reader

namespace Read

/-- Opens a group. -/
def openGroup (name : Option Text) : Read Nat := do
  let reader <- get
  let number := reader.groupCount
  match name with
  | none => set { reader with groups := reader.groups ++ [none] }
  | some name =>
      match reader.names.lookup name with
      | some previous => fail (.redefinedGroup name number previous) (name.length + 1)
      | none =>
          set { reader with
                groups := reader.groups ++ [none]
                names := reader.names ++ [(name, number)] }
  return number

/-- Closes a group. -/
def closeGroup (number : Nat) (width : Width) : Read Unit :=
  modify fun reader => { reader with groups := reader.groups.set (number - 1) (some width) }

/-- Within a lookbehind, refuses a group that is open or that belongs to the lookbehind. -/
def checkLookbehind (number : Nat) : Read Unit := do
  let reader <- get
  match reader.lookbehindFrom with
  | none => return ()
  | some first =>
      if (reader.closedWidth? number).isNone then fail .openGroup 0
      else if first <= number then fail .groupInLookbehind 0
      else return ()

end Read
end Pattern
end Switchboard
