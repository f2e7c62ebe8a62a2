import Switchboard.Text.Basic

namespace Switchboard
namespace Document

/-!
Bytes as documents write them, four characters for three bytes.

Characters outside the alphabet do not count.  Marks at the end fill up the last group of four;
what follows such a group is not looked at.
-/

/-- The six bits of a character of the alphabet. -/
def sixBits? (c : Char) : Option Nat :=
  if 'A' <= c && c <= 'Z' then some (c.toNat - 'A'.toNat)
  else if 'a' <= c && c <= 'z' then some (c.toNat - 'a'.toNat + 26)
  else if c.isDigit then some (c.toNat - '0'.toNat + 52)
  else if c = '+' then some 62
  else if c = '/' then some 63
  else none

/-- The bytes of the rest of a text, given the place in the group of four, the bits that have not
been used up and the count of marks in a row; nothing if the last group is not full. -/
def bytesFrom (place bits marks : Nat) : Text -> Option (List UInt8)
  | [] => if place = 0 then some [] else none
  | c :: rest =>
      if c = '=' then
        if 2 <= place && 4 <= place + (marks + 1) then some []
        else bytesFrom place bits (marks + 1) rest
      else
        match sixBits? c with
        | none => bytesFrom place bits marks rest
        | some value =>
            match place with
            | 0 => bytesFrom 1 value 0 rest
            | 1 => (bytesFrom 2 (value % 16) 0 rest).map
                (UInt8.ofNat (bits * 4 + value / 16) :: ·)
            | 2 => (bytesFrom 3 (value % 4) 0 rest).map
                (UInt8.ofNat (bits * 16 + value / 4) :: ·)
            | _ => (bytesFrom 0 0 0 rest).map (UInt8.ofNat (bits * 64 + value) :: ·)

/-- The bytes that a text gives; only ASCII characters can stand in it. -/
def bytesOf? (text : Text) : Option (List UInt8) :=
  if text.all fun c => c.toNat < 0x80 then bytesFrom 0 0 0 text else none

end Document
end Switchboard
