import Switchboard.Document.Datum

namespace Switchboard

/-!
What is wrong with a settings document, part by part.

A problem has a place, which is the path of keys and positions to it, and a kind.  All problems of
a document are collected, so that it can be mended in one go.
-/

/-- A step on the way to a part of a document. -/
inductive Step where
  | key (name : Text)
  | index (position : Int)
deriving Repr, DecidableEq

/-- The step to the value of a key. Truth values count as one and zero, and keys that are neither
texts nor whole numbers of 64 bits are shown. -/
def Step.ofKey : Datum -> Step
  | .text name => .key name
  | .bool value => .index (if value then 1 else 0)
  | .int value =>
      if -9223372036854775808 <= value && value <= 9223372036854775807 then .index value
      else .key (Text.ofString (toString value))
  | other => .key other.shown

/-- What is wrong with a part of a document. -/
inductive ProblemKind where
  | textWanted
  | unicodeWanted
  | objectWanted
  | listWanted
  | mappingWanted
  | missing
  | unknownField
  | unknownTier
  | unknownChoice
  | truthWanted
  | truthUnreadable
  | wholeWanted
  | wholeUnreadable
  | wholeTooLong
  | wholeHasFraction
  | finiteWanted
  | decimalWanted
  | decimalUnreadable
  | tooSmall
  | tooLarge
  | keyNotText
deriving Repr, DecidableEq

/-- A problem and its place. -/
structure Problem where
  path : List Step
  kind : ProblemKind
deriving Repr, DecidableEq

namespace ProblemKind

/-- The wording of a kind of problem. -/
def message : ProblemKind -> String
  | textWanted => "a text is wanted"
  | unicodeWanted => "the text cannot be read"
  | objectWanted => "a mapping of settings is wanted"
  | listWanted => "a list is wanted"
  | mappingWanted => "a mapping is wanted"
  | missing => "the setting is missing"
  | unknownField => "there is no such setting"
  | unknownTier => "a tier is wanted: low, mid or top"
  | unknownChoice => "one of anywhere and prefix is wanted"
  | truthWanted => "true or false is wanted"
  | truthUnreadable => "the value is neither true nor false"
  | wholeWanted => "a whole number is wanted"
  | wholeUnreadable => "the text is no whole number"
  | wholeTooLong => "the number has too many digits"
  | wholeHasFraction => "the number has a fraction"
  | finiteWanted => "a finite number is wanted"
  | decimalWanted => "a number is wanted"
  | decimalUnreadable => "the text is no number"
  | tooSmall => "the number is too small"
  | tooLarge => "the number is too large"
  | keyNotText => "the name of a setting has to be a text"

end ProblemKind

/-- A step as it is shown. -/
def Step.shown : Step -> String
  | key name => name.toStr
  | index position => toString position

/-- The wording of a problem. -/
def Problem.message (problem : Problem) : String :=
  ".".intercalate (problem.path.map Step.shown) ++ ": " ++ problem.kind.message

end Switchboard
