import Switchboard.Pattern.Grammar
import Switchboard.Rule.Fault
import Switchboard.Rule.Test

namespace Switchboard

/-!
Rules ready for use.

Compiling a rule trims its category and prepares one test for each kind of phrase that is in use.
A rule has to have a category and at least one test.
-/

/-- A category and the tests that assign it. -/
structure Rule where
  /-- The place of the rule in the list. -/
  index : Nat
  category : Text
  tests : List Test
  /-- Whether the rule looks at nothing but the length of a message. -/
  lengthOnly : Bool
deriving Repr, DecidableEq

namespace Rule

/-- Whether a rule matches a normalised message. -/
def isMatch (rule : Rule) (message : Text) : Bool := rule.tests.any fun test => test.holds message

variable [CharacterNames]

/-- The patterns of a rule, read in order up to the first one that is refused. -/
def readPatterns (index : Nat) (category : Text) : List Text -> Except BuildFault (List Pattern)
  | [] => .ok []
  | text :: texts =>
      match Pattern.read text with
      | .error fault => .error (.ofPattern index category text fault)
      | .ok pattern =>
          match readPatterns index category texts with
          | .error fault => .error fault
          | .ok patterns => .ok (pattern :: patterns)

/-- The tests of a rule whose patterns have been read. -/
def testsOf (settings : RuleSettings) (patterns : List Pattern) : List Test :=
  phraseTest settings.exact normalize .isOneOf ++
    phraseTest settings.beginnings (fun p => Text.lower (Text.trimStart p)) .startsWithOneOf ++
    phraseTest settings.contains Text.lower .containsOneOf ++
    phraseTest settings.words (fun p => Text.lower (Text.trim p))
      (fun phrases => .hasBounded (boundedPattern phrases)) ++
    (if patterns.isEmpty then [] else [.matchesOneOf patterns]) ++
    settings.maxChars.toList.map .isShorterThan

/-- The rule at a place of the list. -/
def compile (index : Nat) (settings : RuleSettings) : Except BuildFault Rule :=
  let category := Text.trim settings.category
  if category.isEmpty then .error (.emptyCategory index)
  else
    match readPatterns index category settings.patterns with
    | .error fault => .error fault
    | .ok patterns =>
        let tests := testsOf settings patterns
        if tests.isEmpty then .error (.ruleWithoutTests index category)
        else .ok ⟨index, category, tests, !settings.hasTextTests⟩

/-- The rules of a list whose first place is given. -/
def compileFrom : Nat -> List RuleSettings -> Except BuildFault (List Rule)
  | _, [] => .ok []
  | index, settings :: rest =>
      match compile index settings with
      | .error fault => .error fault
      | .ok rule =>
          match compileFrom (index + 1) rest with
          | .error fault => .error fault
          | .ok rules => .ok (rule :: rules)

end Rule
end Switchboard
