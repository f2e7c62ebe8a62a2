import Switchboard.Number.Numeral
import Switchboard.Text.Word

namespace Switchboard
namespace Numeral

/-!
Whole numbers to a base.

Digits of any script count as those of ASCII.  Blanks around the number do not count, nor do single
low lines between its digits.  There may be a sign, and behind it the mark of the base: a zero and
a letter.
-/

/-- A text with the decimal digits of all scripts written in ASCII. -/
def inAscii (text : Text) : Text :=
  text.map fun c =>
    match Text.decimalValue? c with
    | some value => Char.ofNat ('0'.toNat + value)
    | none => c

/-- The value of a digit of ASCII, the letters going on after the nine. -/
def digitValue? (c : Char) : Option Nat :=
  if c.isDigit then some (c.toNat - '0'.toNat)
  else if c.isAlpha then some (c.toLower.toNat - 'a'.toNat + 10)
  else none

/-- The value of a digit that is less than a base. -/
def digitBelow? (base : Nat) (c : Char) : Option Nat :=
  (digitValue? c).filter fun value => value < base

/-- The letter that marks a base behind a zero. -/
def markOf? : Nat -> Option Char
  | 2 => some 'b'
  | 8 => some 'o'
  | 16 => some 'x'
  | _ => none

/-- A text without the mark of a base in front. -/
def withoutMark (base : Nat) (text : Text) : Text :=
  match text with
  | '0' :: mark :: '_' :: digits => if markOf? base = some mark.toLower then digits else text
  | '0' :: mark :: digits => if markOf? base = some mark.toLower then digits else text
  | _ => text

/-- The number without a sign that a text writes. To the base ten the count of digits is
limited. -/
def readSize (base : Nat) (text : Text) : Except Refusal Nat :=
  let (taken, rest) :=
    (withoutMark base text).span fun c => c == '_' || (digitBelow? base c).isSome
  let values := taken.filterMap (digitBelow? base)
  if !hasLoneLowLines taken then .error .malformed
  else if base = 10 && digitLimit < values.length then .error (.tooLong values.length)
  else if values.isEmpty || !rest.isEmpty then .error .malformed
  else .ok (values.foldl (fun total value => total * base + value) 0)

/-- The number that a text writes. -/
def readWhole (base : Nat) (text : Text) : Except Refusal Int :=
  let (negative, unsigned) := sign (trimmed (inAscii text))
  (readSize base unsigned).map (signed negative)

end Numeral
end Switchboard
