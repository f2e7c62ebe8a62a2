import Switchboard.Number.Numeral
import Switchboard.Text.Quoted

namespace Switchboard
namespace Document

/-!
Why a document cannot be read.

Nearly every fault is one of form: the text breaks a rule of the format.  The others are values
that are formed well and yet stand for nothing, such as the thirtieth of February; they are kept
apart because they are reported in their own words.
-/

/-- What is out of range in a date, a time or a distance from universal time. -/
inductive CalendarFault where
  | year
  | month
  | day
  | hour
  | minute
  | second
  /-- A distance of a day or more, in minutes. -/
  | offset (minutes : Int)
deriving Repr, DecidableEq

/-- Why a document cannot be read. -/
inductive Fault where
  /-- The text breaks a rule of the format. -/
  | malformed
  /-- An escape gives a number beyond those of characters. -/
  | noSuchCharacter
  /-- An escape gives a number beyond those of machine words. -/
  | escapeTooLarge
  /-- A value marked as a truth value is none. -/
  | noTruthValue (word : Text)
  /-- A value marked as a number is empty. -/
  | emptyNumber
  /-- A whole number has no digits, or others than those of its base. -/
  | noWholeNumber (base : Nat) (digits : Text)
  /-- A whole number has too many digits. -/
  | tooManyDigits (count : Nat)
  /-- A value marked as a number with a fraction is none. -/
  | noDecimal (digits : Text)
  /-- A number to the base sixty has a digit whose unit is out of range. -/
  | unitTooLarge
  /-- A value marked as a date is none. -/
  | noDate
  /-- A date or a time does not exist. -/
  | calendar (fault : CalendarFault)
deriving Repr, DecidableEq

/-- A span of minutes in days and seconds, the days rounded down. -/
def spanText (minutes : Int) : String :=
  let days := minutes.fdiv 1440
  let seconds := 60 * (minutes - 1440 * days)
  let parts :=
    (if days = 0 then [] else [s!"days={days}"]) ++
      (if seconds = 0 then [] else [s!"seconds={seconds}"])
  "datetime.timedelta(" ++ ", ".intercalate parts ++ ")"

/-- The wording of a fault of the calendar. -/
def CalendarFault.message : CalendarFault -> String
  | year => "year 0 is out of range"
  | month => "month must be in 1..12"
  | day => "day is out of range for month"
  | hour => "hour must be in 0..23"
  | minute => "minute must be in 0..59"
  | second => "second must be in 0..59"
  | offset minutes =>
      "offset must be a timedelta strictly between -timedelta(hours=24) and " ++
        "timedelta(hours=24), not " ++ spanText minutes

/-- The wording of a fault. -/
def Fault.message : Fault -> String
  | malformed => "the text is no document"
  | noSuchCharacter => "chr() arg not in range(0x110000)"
  | escapeTooLarge => "Python int too large to convert to C int"
  | noTruthValue word => (Text.quoted word).toStr
  | emptyNumber => "string index out of range"
  | noWholeNumber base digits =>
      s!"invalid literal for int() with base {base}: {Text.toStr ((Text.quoted digits).take 200)}"
  | tooManyDigits count => Numeral.limitMessage count
  | noDecimal digits => s!"could not convert string to float: {(Text.quoted digits).toStr}"
  | unitTooLarge => "int too large to convert to float"
  | noDate => "'NoneType' object has no attribute 'groupdict'"
  | calendar fault => fault.message

end Document
end Switchboard
