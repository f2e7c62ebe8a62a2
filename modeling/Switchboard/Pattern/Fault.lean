import Switchboard.Number.Numeral
import Switchboard.Text.Quoted
import Switchboard.Pattern.Basic

namespace Switchboard
namespace Pattern

/-!
Why a pattern is refused.

Most problems have a position, counted in characters from the start of the pattern; when the
pattern has several lines the line and the column are given too.  Three faults stand apart: a count
of repetitions with too many digits to be read as a number, one beyond any sense, and switches that
cannot be in force together.
-/

/-- What is wrong with a pattern. -/
inductive Problem where
  | escapeAtEnd
  | incompleteEscape (written : Text)
  | badEscape (written : Text)
  | octalTooLarge (written : Text)
  | missingBrace
  | undefinedCharacter (name : Text)
  | openGroup
  | groupInLookbehind
  | invalidReference (number : Nat)
  | unterminatedSet
  | badRange (first last : Text)
  | nothingToRepeat
  | multipleRepeat
  | leastAboveMost
  | unexpectedEnd
  | missingName (what : String)
  | unterminatedName (terminator : Char)
  | badGroupName (name : Text)
  | unknownGroupName (name : Text)
  | redefinedGroup (name : Text) (number previous : Nat)
  | badGroupNumber
  | unknownExtension (written : Text)
  | unterminatedComment
  | unterminatedGroup
  | unbalancedParenthesis
  | tooManyBranches
  | switchesNotFirst
  | localeSwitch
  | incompatibleSwitches
  | missingSwitchEnd
  | unknownSwitch
  | missingSwitch
  | missingColon
  | globalTurnedOn
  | globalTurnedOff
  | typeTurnedOff
  | turnedOnAndOff
  | variableLookbehind
  | endlessLookbehind
  | templateRepeat (greed : Greed)
deriving Repr, DecidableEq

/-- The name of a repetition in the one message that names it. -/
def Greed.operator : Greed -> String
  | .greedy => "MAX_REPEAT"
  | .lazy => "MIN_REPEAT"
  | .possessive => "POSSESSIVE_REPEAT"

/-- The wording of a problem. -/
def Problem.message : Problem -> String
  | escapeAtEnd => "bad escape (end of pattern)"
  | incompleteEscape written => s!"incomplete escape {written.toStr}"
  | badEscape written => s!"bad escape {written.toStr}"
  | octalTooLarge written => s!"octal escape value {written.toStr} outside of range 0-0o377"
  | missingBrace => "missing \x7b"
  | undefinedCharacter name => s!"undefined character name {(Text.quoted name).toStr}"
  | openGroup => "cannot refer to an open group"
  | groupInLookbehind => "cannot refer to group defined in the same lookbehind subpattern"
  | invalidReference number => s!"invalid group reference {number}"
  | unterminatedSet => "unterminated character set"
  | badRange first last => s!"bad character range {first.toStr}-{last.toStr}"
  | nothingToRepeat => "nothing to repeat"
  | multipleRepeat => "multiple repeat"
  | leastAboveMost => "min repeat greater than max repeat"
  | unexpectedEnd => "unexpected end of pattern"
  | missingName what => s!"missing {what}"
  | unterminatedName terminator => s!"missing {terminator}, unterminated name"
  | badGroupName name => s!"bad character in group name {(Text.quoted name).toStr}"
  | unknownGroupName name => s!"unknown group name {(Text.quoted name).toStr}"
  | redefinedGroup name number previous =>
      s!"redefinition of group name {(Text.quoted name).toStr} as group {number}; " ++
        s!"was group {previous}"
  | badGroupNumber => "bad group number"
  | unknownExtension written => s!"unknown extension ?{written.toStr}"
  | unterminatedComment => "missing ), unterminated comment"
  | unterminatedGroup => "missing ), unterminated subpattern"
  | unbalancedParenthesis => "unbalanced parenthesis"
  | tooManyBranches => "conditional backref with more than two branches"
  | switchesNotFirst => "global flags not at the start of the expression"
  | localeSwitch => "bad inline flags: cannot use 'L' flag with a str pattern"
  | incompatibleSwitches => "bad inline flags: flags 'a', 'u' and 'L' are incompatible"
  | missingSwitchEnd => "missing -, : or )"
  | unknownSwitch => "unknown flag"
  | missingSwitch => "missing flag"
  | missingColon => "missing :"
  | globalTurnedOn => "bad inline flags: cannot turn on global flag"
  | globalTurnedOff => "bad inline flags: cannot turn off global flag"
  | typeTurnedOff => "bad inline flags: cannot turn off flags 'a', 'u' and 'L'"
  | turnedOnAndOff => "bad inline flags: flag turned on and off"
  | variableLookbehind => "look-behind requires fixed-width pattern"
  | endlessLookbehind => "looks too much behind"
  | templateRepeat greed => s!"internal: unsupported template operator {greed.operator}"

/-- Why a pattern is refused. -/
inductive Fault where
  | malformed (problem : Problem) (position : Option Nat)
  /-- A count of repetitions with more digits than a number may have. -/
  | repetitionTooLong (digits : Nat)
  | repetitionTooLarge
  | switchConflict
deriving Repr, DecidableEq

/-- The column of a position: its distance from the line feed before it. -/
def column (pattern : Text) (position : Nat) : Nat :=
  ((pattern.take position).reverse.takeWhile fun c => c != '\n').length + 1

/-- The wording of a fault in a given pattern. -/
def Fault.message (pattern : Text) : Fault -> String
  | malformed problem none => problem.message
  | malformed problem (some position) =>
      let place := s!"{problem.message} at position {position}"
      if pattern.contains '\n' then
        let line := (pattern.take position).count '\n' + 1
        s!"{place} (line {line}, column {column pattern position})"
      else place
  | repetitionTooLong digits => Numeral.limitMessage digits
  | repetitionTooLarge => "the repetition number is too large"
  | switchConflict => "ASCII and UNICODE flags are incompatible"

end Pattern
end Switchboard
