import Switchboard.Text.Blank
import Switchboard.Text.Case
import Switchboard.Text.Word
import Switchboard.Pattern.Basic

namespace Switchboard
namespace Pattern

/-!
Whether a character of the text is one that a pattern names.

A character matches itself, and without regard to case also the other spellings of its letter:
all of them in Unicode, and the two of ASCII in ASCII mode.  In a set, a range holds every
character with a spelling inside the range.  Beyond the basic plane a set goes by lower case
alone: a single member is compared with the lower-case letter of the text, and a range is asked
for that letter and for its upper case.
-/

/-- The lower-case letter as a mode sees it. -/
def Mode.fold (mode : Mode) (c : Char) : Char :=
  if mode.ascii then c.toLower else Text.foldChar c

/-- Whether a character of the text is the one with the given code point. -/
def Mode.same (mode : Mode) (code : Nat) (c : Char) : Bool :=
  if !mode.ignoreCase then c.toNat == code
  else if mode.ascii then code.isValidChar && (Char.ofNat code).toLower == c.toLower
  else code.isValidChar && Text.sameLetter (Char.ofNat code) c

/-- The characters with a given lower-case letter, the letter first. -/
def spellings (letter : Nat) : List Nat :=
  let capitals := Text.lowerRuns.filterMap fun run =>
    let source := run.first + (letter - run.target)
    if run.target <= letter && run.covers source then some source else none
  letter :: (if letter = 'i'.toNat then 0x130 :: capitals else capitals)

/-- The characters that match a character without regard to case. -/
def Mode.variants (mode : Mode) (c : Char) : List Nat :=
  let letter := mode.fold c
  if mode.ascii then [letter.toNat, letter.toUpper.toNat]
  else
    let letters := match Text.sharedUpperGroups.find? fun group => group.contains letter.toNat with
      | some group => group
      | none => [letter.toNat]
    letters.flatMap spellings

/-- The last code point of the basic plane. -/
def basicPlaneEnd : Nat := 0xFFFF

/-- Whether a range of a set holds a character. -/
def Mode.inRange (mode : Mode) (first last : Nat) (c : Char) : Bool :=
  if !mode.ignoreCase then first <= c.toNat && c.toNat <= last
  else
    let letter := mode.fold c
    let capital := Text.upperChar letter
    (mode.variants c).any (fun code =>
        first <= code && code <= last && code <= basicPlaneEnd) ||
      (basicPlaneEnd < last &&
        ((first <= letter.toNat && letter.toNat <= last) ||
          (first <= capital.toNat && capital.toNat <= last)))

/-- Whether a single member of a set is a character. -/
def Mode.isMember (mode : Mode) (code : Nat) (c : Char) : Bool :=
  if mode.ignoreCase && basicPlaneEnd < code then (mode.fold c).toNat == code
  else mode.same code c

/-- Whether a character belongs to a class. -/
def Mode.inClass (mode : Mode) (cls : CharClass) (c : Char) : Bool :=
  match cls with
  | .digit => if mode.ascii then c.isDigit else Text.isDecimal c
  | .space => if mode.ascii then Text.isAsciiBlank c else Text.isBlank c
  | .word => if mode.ascii then Text.isAsciiWord c else Text.isWord c

/-- Whether a member of a set holds a character. -/
def Mode.holds (mode : Mode) (c : Char) : Member -> Bool
  | .one code => mode.isMember code c
  | .range first last => mode.inRange first last c
  | .cls cls negated => mode.inClass cls c != negated

/-- Whether a set holds a character. -/
def Mode.inSet (mode : Mode) (members : List Member) (negated : Bool) (c : Char) : Bool :=
  members.any (mode.holds c) != negated

/-- Whether two characters of the text match each other, as a reference to a group compares
them. -/
def Mode.sameText (mode : Mode) (a b : Char) : Bool :=
  if !mode.ignoreCase then a == b else mode.fold a == mode.fold b

end Pattern
end Switchboard
