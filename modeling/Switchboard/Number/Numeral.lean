import Switchboard.Number.Binary
import Switchboard.Text.Blank

namespace Switchboard
namespace Numeral

/-!
Numbers as the texts of settings write them.

A whole number has an optional sign, single low lines between its digits do not count, and a
fraction of zeros behind it is allowed.  A decimal has digits before or after its point, or on both
sides, and an optional exponent; infinity and what is not a number have names.  In a decimal single
low lines do not count wherever they stand within the text.  Blanks around a number do not count
either, except around a decimal with low lines, where they are refused.
-/

/-- The text without number blanks at either end. -/
def trimmed (text : Text) : Text :=
  Text.trimEndOf Text.isNumberBlank (Text.trimStartOf Text.isNumberBlank text)

/-- A sign, if there is one, and the text after it. -/
def sign : Text -> Bool × Text
  | '-' :: rest => (true, rest)
  | '+' :: rest => (false, rest)
  | rest => (false, rest)

/-- The digits at the start of a text, single low lines between them left out, and the text after
them. A low line that no digit follows is not taken. -/
def digits : Text -> Text × Text
  | [] => ([], [])
  | [c] => if c.isDigit then ([c], []) else ([], [c])
  | c :: d :: rest =>
      if c.isDigit then
        if d = '_' then
          match rest with
          | e :: _ =>
              if e.isDigit then let (more, left) := digits rest; (c :: more, left)
              else ([c], d :: rest)
          | [] => ([c], d :: rest)
        else let (more, left) := digits (d :: rest); (c :: more, left)
      else ([], c :: d :: rest)

/-- The value of decimal digits. -/
def value (digits : Text) : Nat :=
  digits.foldl (fun total c => total * 10 + (c.toNat - '0'.toNat)) 0

/-- A value with its sign. -/
def signed (negative : Bool) (value : Nat) : Int := if negative then -(value : Int) else value

/-- The most digits that a whole number may have. -/
def digitLimit : Nat := 4300

/-- Why a text is no whole number. -/
inductive Refusal where
  | malformed
  /-- There are more digits than a whole number may have. -/
  | tooLong (count : Nat)
deriving Repr, DecidableEq

/-- The wording for a number with too many digits. -/
def limitMessage (count : Nat) : String :=
  "Exceeds the limit (4300 digits) for integer string conversion: " ++
    s!"value has {count} digits; use sys.set_int_max_str_digits() to increase the limit"

/-- A whole number, behind which a fraction of zeros is allowed. -/
def readInt (text : Text) : Except Refusal Int :=
  let (negative, unsigned) := sign (trimmed text)
  let (whole, rest) := digits unsigned
  let fractionOk := match rest with
    | [] => true
    | ['.'] => false
    | '.' :: zeros => zeros.all (· == '0')
    | _ => false
  if whole.isEmpty || !fractionOk then .error .malformed
  else if digitLimit < whole.length then .error (.tooLong whole.length)
  else .ok (signed negative (value whole))

/-- A text in ASCII lower case. -/
def asciiLower (text : Text) : Text := text.map Char.toLower

/-- Whether low lines stand only within a text, and no two of them together. -/
def hasLoneLowLines (text : Text) : Bool :=
  text.head? != some '_' && text.getLast? != some '_' &&
    (text.zip text.tail).all fun pair => pair != ('_', '_')

/-- A text without low lines. -/
def withoutLowLines (text : Text) : Text := text.filter (· != '_')

/-- The exponent that follows the digits of a decimal, zero if nothing does. -/
def exponent? : Text -> Option Int
  | [] => some 0
  | mark :: rest =>
      let (negative, digits) := sign rest
      if (mark = 'e' || mark = 'E') && !digits.isEmpty && digits.all Char.isDigit then
        some (signed negative (value digits))
      else none

/-- A decimal without sign and without blanks around it. -/
def readUnsigned? (negative : Bool) (text : Text) : Option Binary :=
  let name := asciiLower text
  if name == Text.ofString "inf" || name == Text.ofString "infinity" then
    some (.infinite negative)
  else if name == Text.ofString "nan" then some .notANumber
  else
    let (whole, afterWhole) := text.span Char.isDigit
    let (fraction, afterFraction) := match afterWhole with
      | '.' :: rest => rest.span Char.isDigit
      | rest => ([], rest)
    if whole.isEmpty && fraction.isEmpty then none
    else
      (exponent? afterFraction).map fun power =>
        Binary.ofDecimal negative (value (whole ++ fraction)) (power - fraction.length)

/-- A decimal without blanks around it. -/
def readDecimal? (text : Text) : Option Binary :=
  let (negative, unsigned) := sign text
  readUnsigned? negative unsigned

/-- A decimal that is given as a setting. -/
def readBinary? (text : Text) : Option Binary :=
  if text.contains '_' then
    if hasLoneLowLines text then readDecimal? (withoutLowLines text) else none
  else readDecimal? (trimmed text)

end Numeral
end Switchboard
