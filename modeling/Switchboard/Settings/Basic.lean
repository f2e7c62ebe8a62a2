import Switchboard.Tag.Extraction
import Switchboard.Number.Binary

namespace Switchboard

/-!
The settings of the router, and those that are built in.

Settings are what a document may say; whether they are consistent is decided when routing tables
are built from them.  Rules are tried in order, and the order is their priority.
-/

/-- One classification rule: a category and the tests that assign it, any of which is enough. -/
structure RuleSettings where
  category : Text
  /-- Whole messages. -/
  exact : List Text := []
  /-- What a message starts with. -/
  beginnings : List Text := []
  /-- What a message holds anywhere. -/
  contains : List Text := []
  /-- What a message holds bounded by word boundaries. -/
  words : List Text := []
  /-- Search patterns. -/
  patterns : List Text := []
  /-- Messages with fewer characters than this. -/
  maxChars : Option Nat := none
deriving Repr, DecidableEq

/-- Whether a rule looks at the words of a message and not only at its length. -/
def RuleSettings.hasTextTests (rule : RuleSettings) : Bool :=
  !(rule.exact.isEmpty && rule.beginnings.isEmpty && rule.contains.isEmpty &&
    rule.words.isEmpty && rule.patterns.isEmpty)

/-- Whether tags in a message pick its tier, and where they count. -/
structure TagSettings where
  enabled : Bool := true
  position : TagPosition := .anywhere
deriving Repr, DecidableEq

/-- One model for each tier. -/
structure TierModels where
  low : Text := Text.ofString "gemini/gemini-3-flash-preview"
  mid : Text := Text.ofString "gemini/gemini-3-pro-preview"
  top : Text := Text.ofString "bedrock/us.anthropic.claude-opus-4-6-v1"
deriving Repr, DecidableEq

/-- The model of a tier. -/
def TierModels.get (models : TierModels) : Tier -> Text
  | .low => models.low
  | .mid => models.mid
  | .top => models.top

/-- A table from categories to tiers; an earlier entry wins over a later one of its name. -/
abbrev RoutingTable := List (Text × Tier)

/-- The built-in routing table. -/
def builtinRouting : RoutingTable :=
  [(Text.ofString "heartbeat", .low), (Text.ofString "simple-chat", .low),
   (Text.ofString "lookup", .low), (Text.ofString "translation", .mid),
   (Text.ofString "summarization", .mid), (Text.ofString "coding", .mid),
   (Text.ofString "creative", .mid), (Text.ofString "reasoning", .top),
   (Text.ofString "analysis", .top)]

/-- Phrases as texts. -/
def phrases (strings : List String) : List Text := strings.map Text.ofString

/-- The built-in rules. The one that goes by length alone comes last, because it would hide any
rule behind it from short messages. -/
def builtinRules : List RuleSettings :=
  [ { category := Text.ofString "heartbeat"
      exact := phrases
        ["hi", "hello", "hey", "yo", "sup", "ping", "test", "ok", "okay", "thanks",
         "thank you", "thx"]
      patterns := phrases
        ["^(hi|hey|hello|ping)[!.]+$", "^(are )?(you|u) (there|alive|up|awake)\\??$",
         "^(is )?any(one|body) (there|home)\\??$"] },
    { category := Text.ofString "lookup"
      beginnings := phrases
        ["what is", "what's", "what are", "who is", "who was", "who are", "when is",
         "when was", "when did", "where is", "where was", "how many", "how much", "how old",
         "how far", "define ", "what year", "which country"] },
    { category := Text.ofString "translation"
      beginnings := phrases
        ["translate"]
      contains := phrases
        ["translation of"]
      patterns := phrases
        ["\\b(in|into|to) (english|french|spanish|german|italian|portuguese|dutch|russian|chinese" ++
          "|mandarin|japanese|korean|arabic|hebrew|hindi|turkish|polish|swedish)\\b"] },
    { category := Text.ofString "summarization"
      beginnings := phrases
        ["summarize", "summarise", "tl;dr", "tldr", "sum up", "give me a summary",
         "give me the gist", "condense"]
      contains := phrases
        ["summary of", "key points of", "bullet points from"] },
    { category := Text.ofString "coding"
      contains := phrases
        ["```", "stack trace", "traceback", "def ", "function(", "=>"]
      words := phrases
        ["code", "function", "script", "python", "javascript", "typescript", "java", "golang",
         "rust", "c++", "sql", "regex", "bash", "api", "debug", "bug", "refactor", "compile",
         "compiler", "unit test", "linked list", "algorithm", "class", "method", "dockerfile"] },
    { category := Text.ofString "creative"
      words := phrases
        ["poem", "poetry", "story", "short story", "haiku", "limerick", "lyrics", "song",
         "novel", "screenplay", "fiction", "fairy tale", "sonnet", "slogan"] },
    { category := Text.ofString "reasoning"
      words := phrases
        ["prove", "proof", "derive", "theorem", "lemma", "step by step", "logic puzzle",
         "riddle", "paradox", "deduce", "induction"]
      patterns := phrases
        ["\\bwhy (does|do|is|are|would)\\b.*\\?"] },
    { category := Text.ofString "analysis"
      words := phrases
        ["analyze", "analyse", "analysis", "compare", "comparison", "evaluate", "assess",
         "trade-offs", "tradeoffs", "pros and cons", "critique", "review", "investigate",
         "strategy"] },
    { category := Text.ofString "simple-chat"
      maxChars := some 40 } ]

/-- The rules, the routing table and the models. -/
structure RouterSettings where
  /-- The model name that asks for routing. -/
  autoModel : Text := Text.ofString "auto"
  /-- The category of messages that no rule matches. -/
  fallback : Text := Text.ofString "simple-chat"
  tags : TagSettings := {}
  tiers : TierModels := {}
  routing : RoutingTable := builtinRouting
  rules : List RuleSettings := builtinRules
deriving Repr, DecidableEq

/-- Whether and how often a settings file is looked at again. -/
structure ReloadSettings where
  enabled : Bool := false
  interval : Binary := .finite false (5 <<< 50) (-50)
deriving Repr, DecidableEq

/-- All settings. -/
structure Settings where
  logLevel : Text := Text.ofString "INFO"
  reload : ReloadSettings := {}
  router : RouterSettings := {}
deriving Repr, DecidableEq

end Switchboard
