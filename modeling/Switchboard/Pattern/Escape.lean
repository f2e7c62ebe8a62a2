import Switchboard.Pattern.Reader
import Switchboard.Text.Name

namespace Switchboard
namespace Pattern

/-!
Escapes: a backslash and what follows it.

An escape stands for one character, for a class of characters, for an anchor or for a reference to
a group.  In a set it can stand only for a character or a class.
-/

namespace Escape

/-- The control characters with a letter of their own. -/
def control? : Char -> Option Nat
  | 'a' => some 0x07
  | 'f' => some 0x0C
  | 'n' => some 0x0A
  | 'r' => some 0x0D
  | 't' => some 0x09
  | 'v' => some 0x0B
  | '\\' => some 0x5C
  | _ => none

/-- The classes with a letter of their own. -/
def class? : Char -> Option Member
  | 'd' => some (.cls .digit false)
  | 'D' => some (.cls .digit true)
  | 's' => some (.cls .space false)
  | 'S' => some (.cls .space true)
  | 'w' => some (.cls .word false)
  | 'W' => some (.cls .word true)
  | _ => none

/-- The anchors with a letter of their own. -/
def anchor? : Char -> Option Anchor
  | 'A' => some .textStart
  | 'b' => some .boundary
  | 'B' => some .nonBoundary
  | 'Z' => some .textEnd
  | _ => none

/-- The count of hexadecimal digits that a letter asks for. -/
def hexCount? : Char -> Option Nat
  | 'x' => some 2
  | 'u' => some 4
  | 'U' => some 8
  | _ => none

/-- A character given by hexadecimal digits. -/
def hex (letter : Char) (count : Nat) : Read Nat := do
  let digits <- Read.takeWhile isHex count
  let written := '\\' :: letter :: digits
  if digits.length != count then Read.fail (.incompleteEscape written) written.length
  else
    let code := numeral 16 digits
    if code <= 0x10FFFF then return code else Read.fail (.badEscape written) written.length

variable [CharacterNames]

/-- A character given by its name. -/
def named : Read Nat := do
  if <- Read.accept '\x7b' then
    let name <- Read.name '\x7d' "character name"
    match CharacterNames.find? name with
    | some c => return c.toNat
    | none => Read.fail (.undefinedCharacter name) (name.length + 4)
  else Read.fail .missingBrace 0

/-- A character given by octal digits, of which the first one is read. -/
def octal (first : Char) : Read Nat := do
  let digits := first :: (<- Read.takeWhile isOctal 2)
  let code := numeral 8 digits
  if code <= 0o377 then return code
  else Read.fail (.octalTooLarge ('\\' :: digits)) (digits.length + 1)

/-- The character that an escaped letter or mark stands for when it has no meaning of its own:
marks stand for themselves, letters are refused. -/
def plain (c : Char) : Read Nat :=
  if c.isAlpha then Read.fail (.badEscape ['\\', c]) 2 else return c.toNat

/-- An escape within a set. -/
def inSet (c : Char) : Read Member := do
  if c = 'b' then return .one 0x08
  else match control? c, class? c, hexCount? c with
    | some code, _, _ => return .one code
    | _, some cls, _ => return cls
    | _, _, some count => return .one (<- hex c count)
    | _, _, _ =>
        if c = 'N' then return .one (<- named)
        else if isOctal c then return .one (<- octal c)
        else if c.isDigit then Read.fail (.badEscape ['\\', c]) 2
        else return .one (<- plain c)

/-- A reference to the group of the given digits. -/
def reference (digits : Text) : Read Node := do
  let reader <- get
  let number := numeral 10 digits
  if number < reader.groupCount then
    match reader.closedWidth? number with
    | none => Read.fail .openGroup (digits.length + 1)
    | some width =>
        Read.checkLookbehind number
        return .backref number width
  else Read.fail (.invalidReference number) digits.length

/-- An escape that starts with a digit other than zero: three octal digits are a character, and
one or two digits refer to a group. -/
def numbered (first : Char) : Read Node := do
  match <- Read.takeWhile Char.isDigit 1 with
  | [second] =>
      if isOctal first && isOctal second then
        match <- Read.takeWhile isOctal 1 with
        | [third] =>
            let digits := [first, second, third]
            let code := numeral 8 digits
            if code <= 0o377 then return .char code false
            else Read.fail (.octalTooLarge ('\\' :: digits)) 4
        | _ => reference [first, second]
      else reference [first, second]
  | _ => reference [first]

/-- An escape outside sets. -/
def outsideSet (c : Char) : Read Node := do
  match anchor? c, class? c, control? c with
  | some anchor, _, _ => return .anchor anchor
  | _, some cls, _ => return .set [cls] false
  | _, _, some code => return .char code false
  | _, _, _ =>
      match hexCount? c with
      | some count => return .char (<- hex c count) false
      | none =>
          if c = 'N' then return .char (<- named) false
          else if c = '0' then return .char (numeral 8 (<- Read.takeWhile isOctal 2)) false
          else if c.isDigit then numbered c
          else return .char (<- plain c) false

end Escape
end Pattern
end Switchboard
