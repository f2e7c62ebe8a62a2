import Switchboard.Text.CaseTables

namespace Switchboard
namespace Text

/-!
Letter case.

Lower-casing works letter by letter with two exceptions: the dotted capital I becomes two
characters, and a capital sigma takes its final form after a letter with case when no letter
with case follows, characters that case ignores being passed over on both sides.

Two characters match without regard to case when they have the same lower-case letter, or when
their lower-case letters are two spellings of one upper-case letter.
-/

/-- The run that maps a code point, the runs being in ascending order; the search stops at the
first run above it. -/
def runFor? : List CaseRun -> Nat -> Option CaseRun
  | [], _ => none
  | run :: runs, code =>
      if code < run.first then none
      else if run.covers code then some run
      else runFor? runs code

/-- The character of a code point that a case table gives. -/
def mapCode (runs : List CaseRun) (c : Char) : Char :=
  match runFor? runs c.toNat with
  | some run => Char.ofNat (run.map c.toNat)
  | none => c

/-- The lower-case letter of a character, one for one. -/
def lowerChar (c : Char) : Char := mapCode lowerRuns c

/-- The lower-case letter that patterns use: that of the dotted capital I is the plain i. -/
def foldChar (c : Char) : Char := if c = Char.ofNat 0x130 then 'i' else lowerChar c

/-- The upper-case letter of a character, one for one. -/
def upperChar (c : Char) : Char := mapCode upperRuns c

/-- The upper-case form of a character. -/
def upperForm (c : Char) : Text :=
  match upperSequences.lookup c.toNat with
  | some codes => codes.map Char.ofNat
  | none => [upperChar c]

/-- The text in upper case. -/
def upper (text : Text) : Text := text.flatMap upperForm

/-- A letter with case, as the form of a final sigma sees it. -/
def isCased (c : Char) : Bool := casedRanges.holds c.toNat

/-- A character that the form of a final sigma does not see. -/
def isCaseIgnorable (c : Char) : Bool := caseIgnorableRanges.holds c.toNat

/-- Whether the first character that is not passed over is a letter with case. -/
def leadsWithCased (text : Text) : Bool :=
  match text.dropWhile isCaseIgnorable with
  | [] => false
  | c :: _ => isCased c

/-- The lower-case form of a character, given whether a letter with case comes before it and the
text that comes after it. -/
def lowerForm (afterCased : Bool) (c : Char) (following : Text) : Text :=
  if c = Char.ofNat 0x3A3 then
    [if afterCased && !leadsWithCased following then Char.ofNat 0x3C2 else Char.ofNat 0x3C3]
  else if c = Char.ofNat 0x130 then ['i', Char.ofNat 0x307]
  else [lowerChar c]

/-- The lower-case form of a text that follows a letter with case or does not. -/
def lowerAfter (afterCased : Bool) : Text -> Text
  | [] => []
  | c :: following =>
      lowerForm afterCased c following ++
        lowerAfter (if isCaseIgnorable c then afterCased else isCased c) following

/-- The text in lower case. -/
def lower (text : Text) : Text := lowerAfter false text

/-- Lower-case letters that are different spellings of one upper-case letter. -/
def sharedUpperGroups : List (List Nat) :=
  [[0x69, 0x131], [0x73, 0x17F], [0xB5, 0x3BC], [0x345, 0x3B9, 0x1FBE], [0x390, 0x1FD3],
   [0x3B0, 0x1FE3], [0x3B2, 0x3D0], [0x3B5, 0x3F5], [0x3B8, 0x3D1], [0x3BA, 0x3F0],
   [0x3C0, 0x3D6], [0x3C1, 0x3F1], [0x3C2, 0x3C3], [0x3C6, 0x3D5], [0x432, 0x1C80],
   [0x434, 0x1C81], [0x43E, 0x1C82], [0x441, 0x1C83], [0x442, 0x1C84, 0x1C85], [0x44A, 0x1C86],
   [0x463, 0x1C87], [0x1C88, 0xA64B], [0x1E61, 0x1E9B], [0xFB05, 0xFB06]]

/-- Whether two different lower-case letters are spellings of one upper-case letter. Two letters
of ASCII never are. -/
def shareUpper (a b : Char) : Bool :=
  !(a.toNat < 0x80 && b.toNat < 0x80) &&
    sharedUpperGroups.any fun group => group.contains a.toNat && group.contains b.toNat

/-- Whether two characters match without regard to case. -/
def sameLetter (a b : Char) : Bool :=
  foldChar a == foldChar b || shareUpper (foldChar a) (foldChar b)

end Text
end Switchboard
