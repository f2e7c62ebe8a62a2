import Switchboard.Document.Datum
import Switchboard.Document.Fault

namespace Switchboard
namespace Document

/-!
Dates and times as documents write them.

A date is a year, a month and a day.  A time may follow it, and the time may end with a fraction of
a second and with its distance from universal time.  Of the fraction, six digits count.
-/

/-- A count of digits at the start of a text, at least and at most as many as given, and the text
after them. -/
def digitsBetween (least most : Nat) (text : Text) : Option (Nat × Text) :=
  let digits := (text.take most).takeWhile Char.isDigit
  if digits.length < least then none
  else
    some (digits.foldl (fun total c => total * 10 + (c.toNat - '0'.toNat)) 0,
      text.drop digits.length)

/-- The text behind a given character at its start. -/
def behind? (c : Char) : Text -> Option Text
  | [] => none
  | d :: rest => if d = c then some rest else none

/-- The distance from universal time that a text gives, in minutes. -/
def readOffset (text : Text) : Option (Option Int) :=
  match text.dropWhile fun c => c = ' ' || c = '\t' with
  | [] => if text.isEmpty then some none else none
  | ['Z'] => some (some 0)
  | sign :: rest =>
      if sign != '+' && sign != '-' then none
      else do
        let (hours, rest) <- digitsBetween 1 2 rest
        let (minutes, rest) <-
          if rest.isEmpty then some (0, []) else (behind? ':' rest).bind (digitsBetween 2 2)
        let size : Int := hours * 60 + minutes
        if rest.isEmpty then some (some (if sign = '-' then -size else size)) else none

/-- The millionths of a second that a fraction gives, and the text after it. -/
def readFraction (text : Text) : Nat × Text :=
  match behind? '.' text with
  | none => (0, text)
  | some rest =>
      let digits := rest.takeWhile Char.isDigit
      let counted := (digits ++ List.replicate 6 '0').take 6
      (counted.foldl (fun total c => total * 10 + (c.toNat - '0'.toNat)) 0, rest.drop digits.length)

/-- The time that a text gives, behind the mark or the blanks that set it apart from its date. -/
def readClock (text : Text) : Option Clock := do
  let rest <- match text with
    | 'T' :: rest => some rest
    | 't' :: rest => some rest
    | ' ' :: rest => some (rest.dropWhile fun c => c = ' ' || c = '\t')
    | '\t' :: rest => some (rest.dropWhile fun c => c = ' ' || c = '\t')
    | _ => none
  let (hour, rest) <- digitsBetween 1 2 rest
  let (minute, rest) <- (behind? ':' rest).bind (digitsBetween 2 2)
  let (second, rest) <- (behind? ':' rest).bind (digitsBetween 2 2)
  let (microsecond, rest) := readFraction rest
  let offset <- readOffset rest
  pure ⟨hour, minute, second, microsecond, offset⟩

/-- The date that a text gives, and its time if it gives one. -/
def readDate (text : Text) : Option (Day × Option Clock) := do
  let (year, rest) <- digitsBetween 4 4 text
  let (month, rest) <- (behind? '-' rest).bind (digitsBetween 1 2)
  let (day, rest) <- (behind? '-' rest).bind (digitsBetween 1 2)
  if rest.isEmpty then some (⟨year, month, day⟩, none)
  else
    let clock <- readClock rest
    pure (⟨year, month, day⟩, some clock)

/-- Whether a plain scalar is a date: one without a time has two digits each for the month and the
day. -/
def isDate (text : Text) : Bool :=
  match readDate text with
  | none => false
  | some (_, some _) => true
  | some (_, none) => text.length == 10

/-- The count of days of a month. -/
def daysOf (year month : Nat) : Nat :=
  if month = 2 then
    (if year % 4 = 0 && (year % 100 != 0 || year % 400 = 0) then 29 else 28)
  else if month ∈ [4, 6, 9, 11] then 30
  else 31

/-- What is wrong with a day, if it does not exist. -/
def dayFault? (day : Day) : Option CalendarFault :=
  if day.year = 0 then some .year
  else if day.month = 0 || 12 < day.month then some .month
  else if day.day = 0 || daysOf day.year day.month < day.day then some .day
  else none

/-- What is wrong with the time of a day, if it does not exist. -/
def clockFault? (clock : Clock) : Option CalendarFault :=
  if 23 < clock.hour then some .hour
  else if 59 < clock.minute then some .minute
  else if 59 < clock.second then some .second
  else none

/-- What is wrong with a distance from universal time, if it is a day or more. -/
def offsetFault? (clock : Clock) : Option CalendarFault :=
  match clock.offset with
  | none => none
  | some minutes => if 1440 <= minutes.natAbs then some (.offset minutes) else none

/-- The date that a text gives, which has to exist. -/
def dateOf (text : Text) : Except Fault Datum :=
  match readDate text with
  | none => .error .noDate
  | some (day, none) =>
      match dayFault? day with
      | some fault => .error (.calendar fault)
      | none => .ok (.date day)
  | some (day, some clock) =>
      match (offsetFault? clock).or ((dayFault? day).or (clockFault? clock)) with
      | some fault => .error (.calendar fault)
      | none => .ok (.moment day clock)

end Document
end Switchboard
