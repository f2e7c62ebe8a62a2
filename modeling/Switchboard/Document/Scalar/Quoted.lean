import Switchboard.Document.Fault
import Switchboard.Document.Scalar.Plain

namespace Switchboard
namespace Document

/-!
Quoted scalars.

Between single quotes a quote is written twice and every other character stands for itself.
Between double quotes a backslash starts an escape, and one before a line break joins two lines.
In both, blanks around a line break do not count and the break counts as a blank, as in plain
scalars.
-/

/-- How a scalar is quoted. -/
inductive Quote where
  | single
  | double
deriving Repr, DecidableEq

/-- The quote mark. -/
def Quote.mark : Quote -> Char
  | single => '\''
  | double => '"'

/-- The character that a one-letter escape stands for. -/
def simpleEscape? (c : Char) : Option Char :=
  [('0', 0x00), ('a', 0x07), ('b', 0x08), ('t', 0x09), ('\t', 0x09), ('n', 0x0A), ('v', 0x0B),
   ('f', 0x0C), ('r', 0x0D), ('e', 0x1B), (' ', 0x20), ('"', 0x22), ('\\', 0x5C), ('/', 0x2F),
   ('N', 0x85), ('_', 0xA0), ('L', 0x2028), ('P', 0x2029)].lookup c |>.map Char.ofNat

/-- The count of digits behind the letter of a numbered escape. -/
def escapeDigits? (c : Char) : Option Nat := [('x', 2), ('u', 4), ('U', 8)].lookup c

/-- The value of a hexadecimal digit. -/
def hexValue? (c : Char) : Option Nat :=
  if '0' <= c && c <= '9' then some (c.toNat - '0'.toNat)
  else if 'a' <= c && c <= 'f' then some (c.toNat - 'a'.toNat + 10)
  else if 'A' <= c && c <= 'F' then some (c.toNat - 'A'.toNat + 10)
  else none

/-- The value of a given count of hexadecimal digits at the start of a text. -/
def hexNumber? : Nat -> Nat -> Text -> Option Nat
  | 0, value, _ => some value
  | _ + 1, _, [] => none
  | count + 1, value, c :: rest =>
      match hexValue? c with
      | some digit => hexNumber? count (16 * value + digit) rest
      | none => none

/-- The character of a number. Halves of surrogate pairs are no characters. -/
def characterOf (code : Nat) : Except Fault Char :=
  if 0x80000000 <= code then .error .escapeTooLarge
  else if 0x110000 <= code then .error .noSuchCharacter
  else if 0xD800 <= code && code < 0xE000 then .error .malformed
  else .ok (Char.ofNat code)

/-- Empty lines inside quotes. Marks between documents cannot stand there. -/
def quotedBreaks : Nat -> Text -> Cursor -> Except Fault (Text × Cursor)
  | 0, _, _ => .error .malformed
  | count + 1, breaks, place =>
      if place.isAtSeparator then .error .malformed
      else
        let place := place.skipWhile fun c => c = ' ' || c = '\t'
        match place.lineBreak? with
        | some (c, place) => quotedBreaks count (breaks ++ [c]) place
        | none => .ok (breaks, place)

/-- Blanks inside quotes, and what they count as. -/
def quotedGap (place : Cursor) : Except Fault (Text × Cursor) :=
  let blanks := place.run fun c => c = ' ' || c = '\t'
  let behind := place.skip blanks.length
  match behind.lineBreak? with
  | none => .ok (blanks, behind)
  | some (first, behind) => do
      let (breaks, place) <- quotedBreaks (behind.rest.length + 1) [] behind
      pure (folded first breaks, place)

/-- What an escape stands for, given the place behind its backslash. -/
def escape (place : Cursor) : Except Fault (Text × Cursor) :=
  match place.char? with
  | none => .error .malformed
  | some c =>
      match simpleEscape? c, escapeDigits? c, place.lineBreak? with
      | some plain, _, _ => .ok ([plain], place.next)
      | none, some count, _ =>
          match hexNumber? count 0 place.next.rest with
          | none => .error .malformed
          | some code => do
              let plain <- characterOf code
              pure ([plain], place.skip (count + 1))
      | none, none, some (_, place) => quotedBreaks (place.rest.length + 1) [] place
      | none, none, none => .error .malformed

/-- The rest of a quoted scalar, joined to what has been read. -/
def quotedRest (quote : Quote) : Nat -> Text -> Cursor -> Except Fault (Text × Cursor)
  | 0, _, _ => .error .malformed
  | count + 1, read, place =>
      match place.char? with
      | none => .error .malformed
      | some c =>
          if c = quote.mark then
            if quote = .single && place.charAfter? 1 = some c then
              quotedRest quote count (read ++ [c]) (place.skip 2)
            else .ok (read, place.next)
          else if quote = .double && c = '\\' then do
            let (plain, place) <- escape place.next
            quotedRest quote count (read ++ plain) place
          else if isGap (some c) then do
            let (blanks, place) <- quotedGap place
            quotedRest quote count (read ++ blanks) place
          else
            let plain := place.run fun d =>
              !(isGap (some d) || d = quote.mark || d = '\\')
            if plain.isEmpty then quotedRest quote count (read ++ [c]) place.next
            else quotedRest quote count (read ++ plain) (place.skip plain.length)

/-- The quoted scalar at a place, given the place behind its opening quote. -/
def quotedScalar (quote : Quote) (place : Cursor) : Except Fault (Text × Cursor) :=
  quotedRest quote (place.rest.length + 1) [] place

end Document
end Switchboard
