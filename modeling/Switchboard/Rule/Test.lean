import Switchboard.Pattern.Search
import Switchboard.Settings.Basic

namespace Switchboard

/-!
The tests of a rule, over normalised messages.

A message is normalised by trimming it and writing it in lower case.  Phrases are treated each in
its own way: whole messages like messages, beginnings without blanks before them but with those
behind them, contained phrases with all their blanks, and bounded phrases trimmed.  Blank phrases
are dropped everywhere.
-/

/-- A message as rules see it. -/
def normalize (message : Text) : Text := Text.lower (Text.trim message)

/-- A test on a normalised message. -/
inductive Test where
  | isOneOf (messages : List Text)
  | startsWithOneOf (beginnings : List Text)
  | containsOneOf (phrases : List Text)
  | hasBounded (phrases : Pattern)
  | matchesOneOf (patterns : List Pattern)
  | isShorterThan (limit : Nat)
deriving Repr, DecidableEq

namespace Test

/-- Whether a normalised message passes a test. -/
def holds (message : Text) : Test -> Bool
  | isOneOf messages => messages.contains message
  | startsWithOneOf beginnings => beginnings.any fun beginning => Text.startsWith beginning message
  | containsOneOf phrases => phrases.any fun phrase => Text.includes phrase message
  | hasBounded phrases => phrases.isFoundIn message
  | matchesOneOf patterns => patterns.any fun pattern => pattern.isFoundIn message
  | isShorterThan limit => message.length < limit

end Test

/-- The phrases that are not blank. -/
def dropBlank (phrases : List Text) : List Text :=
  phrases.filter fun phrase => !Text.isBlankText phrase

/-- A test for phrases of one kind, if one of them is not blank. -/
def phraseTest (phrases : List Text) (prepare : Text -> Text) (test : List Text -> Test) :
    List Test :=
  if (dropBlank phrases).isEmpty then [] else [test ((dropBlank phrases).map prepare)]

namespace Pattern

/-- A phrase, character by character. -/
def Node.phrase (phrase : Text) : Node :=
  Node.ofList (phrase.map fun c => .char c.toNat false)

/-- One word character. -/
def Node.wordChar : Node := .set [.cls .word false] false

/-- One of several phrases with no word character right before it and none right after it. -/
def Node.bounded (phrases : List Text) : Node :=
  .seq (.behind true .one .wordChar)
    (.seq (.scoped .none (Node.anyOf (phrases.map Node.phrase))) (.ahead true .wordChar))

end Pattern

/-- The pattern that finds one of several phrases where it is bounded. Phrases are in lower case
already, so letter case counts. -/
def boundedPattern (phrases : List Text) : Pattern :=
  ⟨Pattern.Node.bounded phrases, ⟨false, false, false, false⟩⟩

end Switchboard
