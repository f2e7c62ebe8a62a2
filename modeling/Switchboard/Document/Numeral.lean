import Switchboard.Document.Fault
import Switchboard.Document.Kind
import Switchboard.Number.Whole
import Switchboard.Text.Case

namespace Switchboard
namespace Document

/-!
Numbers as documents write them.

Low lines in a number do not count.  Whole numbers may be written to the base two, eight, sixteen
or sixty as well as ten, a leading zero standing for the base eight.  Numbers with a fraction may
be written to the base sixty too.  A value that is marked as a number is read more freely than one
that is taken for a number by its form: there may be another sign behind the first one, the mark of
the base once more, blanks, and digits of other scripts.
-/

/-- A whole number to a base. -/
def wholeTo (base : Nat) (text : Text) : Except Fault Int :=
  match Numeral.readWhole base text with
  | .ok value => .ok value
  | .error .malformed => .error (.noWholeNumber base text)
  | .error (.tooLong count) => .error (.tooManyDigits count)

/-- A whole number whose parts are the digits of the base sixty. -/
def wholeToSixty : Int -> List Text -> Except Fault Int
  | total, [] => .ok total
  | total, part :: parts => do
      let value <- wholeTo 10 part
      wholeToSixty (total * 60 + value) parts

/-- A whole number behind its sign. -/
def wholeSize (text : Text) : Except Fault Int :=
  match text with
  | [] => .error .emptyNumber
  | ['0'] => .ok 0
  | '0' :: 'b' :: digits => wholeTo 2 digits
  | '0' :: 'x' :: digits => wholeTo 16 digits
  | '0' :: digits => wholeTo 8 ('0' :: digits)
  | _ => if text.contains ':' then wholeToSixty 0 (Text.splitOn ':' text) else wholeTo 10 text

/-- Whether a number has a minus in front. -/
def isNegative (text : Text) : Bool := text.head? = some '-'

/-- The whole number that a text gives. -/
def wholeOf (text : Text) : Except Fault Int :=
  let number := Numeral.withoutLowLines text
  if number.isEmpty then .error .emptyNumber
  else do
    let size <- wholeSize (Kind.unsigned number)
    pure (if isNegative number then -size else size)

/-- A number with a fraction, to the base ten. -/
def decimalTo (text : Text) : Except Fault Binary :=
  match Numeral.readDecimal? (Numeral.trimmed (Numeral.inAscii text)) with
  | some value => .ok value
  | none => .error (.noDecimal text)

/-- A number whose parts, the last one first, are the digits of the base sixty. Each unit has to be
within the range of numbers with a fraction. -/
def decimalToSixty : Binary -> Nat -> List Binary -> Except Fault Binary
  | total, _, [] => .ok total
  | total, unit, part :: parts =>
      let size := Binary.ofInt unit
      if size.isFinite then decimalToSixty (total.add (part.multiply size)) (unit * 60) parts
      else .error .unitTooLarge

/-- A number with a fraction behind its sign. -/
def decimalSize (text : Text) : Except Fault Binary :=
  if text = ".inf".toList then .ok (.infinite false)
  else if text = ".nan".toList then .ok .notANumber
  else if text.contains ':' then do
    let parts <- (Text.splitOn ':' text).mapM decimalTo
    decimalToSixty Binary.zero 1 parts.reverse
  else decimalTo text

/-- The number with a fraction that a text gives. -/
def decimalOf (text : Text) : Except Fault Binary :=
  let number := Text.lower (Numeral.withoutLowLines text)
  if number.isEmpty then .error .emptyNumber
  else do
    let size <- decimalSize (Kind.unsigned number)
    pure (if isNegative number then size.negate else size)

end Document
end Switchboard
