import Switchboard.Pattern.Letter

namespace Switchboard
namespace Pattern

/-!
Searching a text for a pattern.

A node matches from a place in the text to any number of places, in an order of preference, and
whatever follows the node decides which of them is taken.  So a node is matched together with what
comes next: it offers its places one after another and stops at the first one from which the rest
succeeds.  Atomic groups, assertions and possessive repetitions ask only for the first place.

A repetition first matches its body as often as it must.  After that every further round has to
start at another place than the round before it, so a round that matches nothing is the last one;
that bounds the rounds by the characters that are left.
-/

/-- A place in a text and what the groups have matched on the way to it. -/
structure Place where
  /-- The characters before the place, the nearest one first. -/
  before : Text
  after : Text
  position : Nat
  /-- Where groups started, under twice their number, and ended, under the number after it; the
  latest mark comes first. -/
  marks : List (Nat × Nat)
deriving Repr, DecidableEq

namespace Place

/-- The start of a text. -/
def start (text : Text) : Place := ⟨[], text, 0, []⟩

/-- The place after the next character, if that character passes a test. -/
def forward? (place : Place) (test : Char -> Bool) : Option Place :=
  match place.after with
  | [] => none
  | c :: after =>
      if test c then some { place with
        before := c :: place.before, after := after, position := place.position + 1 }
      else none

/-- The place a number of characters earlier. -/
def back? (place : Place) (count : Nat) : Option Place :=
  if place.position < count then none
  else some { place with
    before := place.before.drop count
    after := (place.before.take count).reverse ++ place.after
    position := place.position - count }

/-- The place with a mark set. -/
def mark (place : Place) (name : Nat) : Place :=
  { place with marks := (name, place.position) :: place.marks }

/-- Where the latest match of a group starts and ends. -/
def group? (place : Place) (number : Nat) : Option (Nat × Nat) :=
  match place.marks.lookup (2 * number), place.marks.lookup (2 * number + 1) with
  | some first, some last => if first <= last then some (first, last) else none
  | _, _ => none

/-- The text of a stretch. -/
def textOf (place : Place) (stretch : Nat × Nat) : Text :=
  ((place.before.reverse ++ place.after).drop stretch.1).take (stretch.2 - stretch.1)

/-- The place after a text that matches the given one character by character. -/
def through? (place : Place) (same : Char -> Char -> Bool) : Text -> Option Place
  | [] => some place
  | c :: text => (place.forward? (same c)).bind fun next => next.through? same text

/-- Whether an anchor holds at a place. -/
def satisfies (place : Place) (mode : Mode) : Anchor -> Bool
  | .textStart => place.before.isEmpty
  | .lineStart => place.before.isEmpty || (mode.byLine && place.before.head? == some '\n')
  | .textEnd => place.after.isEmpty
  | .lineEnd =>
      place.after.isEmpty || place.after == ['\n'] ||
        (mode.byLine && place.after.head? == some '\n')
  | .boundary => wordBefore != wordAfter
  | .nonBoundary => !(place.before.isEmpty && place.after.isEmpty) && wordBefore == wordAfter
where
  wordBefore := place.before.head?.any (mode.inClass .word)
  wordAfter := place.after.head?.any (mode.inClass .word)

end Place

/-- What follows a node: it succeeds from a place or it does not. -/
abbrev Next := Place -> Option Place

/-- Matching a node together with what follows it. -/
abbrev Matcher := Place -> Next -> Option Place

namespace Matcher

/-- A body matched exactly so many times. -/
def exactly (body : Matcher) : Nat -> Matcher
  | 0, place, next => next place
  | count + 1, place, next => body place fun place => exactly body count place next

/-- One more of the rounds that are left. -/
def oneLess (left : Option Nat) : Option Nat := left.map (· - 1)

/-- Whether another round may start: rounds are left, and it starts elsewhere than the last. -/
def mayRepeat (left last : Option Nat) (place : Place) : Bool :=
  left != some 0 && last != some place.position

/-- Further rounds of a body, as many as possible first. -/
def greedy (body : Matcher) : Nat -> Option Nat -> Option Nat -> Matcher
  | 0, _, _, place, next => next place
  | rounds + 1, left, last, place, next =>
      if mayRepeat left last place then
        match body place fun after =>
            greedy body rounds (oneLess left) (some place.position) after next with
        | some result => some result
        | none => next place
      else next place

/-- Further rounds of a body, as few as possible first. -/
def lazy (body : Matcher) : Nat -> Option Nat -> Option Nat -> Matcher
  | 0, _, _, place, next => next place
  | rounds + 1, left, last, place, next =>
      match next place with
      | some result => some result
      | none =>
          if mayRepeat left last place then
            body place fun after =>
              lazy body rounds (oneLess left) (some place.position) after next
          else none

/-- The place after as many rounds of a body as possible, each ending at its first place. -/
def furthest (body : Matcher) : Nat -> Option Nat -> Option Nat -> Place -> Place
  | 0, _, _, place => place
  | rounds + 1, left, last, place =>
      if mayRepeat left last place then
        match body place some with
        | some after => furthest body rounds (oneLess left) (some place.position) after
        | none => place
      else place

/-- The place after exactly so many rounds of a body, each ending at its first place. -/
def exactlyFirst (body : Matcher) : Nat -> Place -> Option Place
  | 0, place => some place
  | count + 1, place => (body place some).bind (exactlyFirst body count)

/-- A repeated body. -/
def loop (greed : Greed) (least : Nat) (most : Option Nat) (body : Matcher) : Matcher :=
  fun place next =>
    let left := most.map (· - least)
    match greed with
    | .greedy =>
        exactly body least place fun place =>
          greedy body (place.after.length + 1) left none place next
    | .lazy =>
        exactly body least place fun place =>
          lazy body (place.after.length + 1) left none place next
    | .possessive =>
        match exactlyFirst body least place with
        | none => none
        | some place => next (furthest body (place.after.length + 1) left none place)

/-- A condition on what can be matched from a place, which itself is not left. What the groups of
a condition have matched stays known. -/
def assertion (negated : Bool) (found : Option Place) (place : Place) (next : Next) :
    Option Place :=
  match found, negated with
  | some found, false => next { place with marks := found.marks }
  | none, true => next place
  | _, _ => none

end Matcher

/-- Matching a node in a mode. -/
def Node.run : Node -> Mode -> Matcher
  | .empty, _ => fun place next => next place
  | .char code negated, mode => fun place next =>
      (place.forward? fun c => mode.same code c != negated).bind next
  | .any, mode => fun place next => (place.forward? fun c => mode.dotAll || c != '\n').bind next
  | .set members negated, mode => fun place next =>
      (place.forward? (mode.inSet members negated)).bind next
  | .anchor condition, mode => fun place next =>
      if place.satisfies mode condition then next place else none
  | .seq first second, mode => fun place next =>
      first.run mode place fun middle => second.run mode middle next
  | .alt first second, mode => fun place next =>
      match first.run mode place next with
      | some result => some result
      | none => second.run mode place next
  | .group number body, mode => fun place next =>
      body.run mode (place.mark (2 * number)) fun after => next (after.mark (2 * number + 1))
  | .scoped change body, mode => body.run (mode.change change)
  | .atomic body, mode => fun place next => (body.run mode place some).bind next
  | .loop greed least most body, mode => Matcher.loop greed least most (body.run mode)
  | .ahead negated body, mode => fun place next =>
      Matcher.assertion negated (body.run mode place some) place next
  | .behind negated width body, mode => fun place next =>
      let found := (place.back? width.least).bind fun start => body.run mode start some
      Matcher.assertion negated found place next
  | .backref number _, mode => fun place next =>
      match place.group? number with
      | none => none
      | some stretch => (place.through? mode.sameText (place.textOf stretch)).bind next
  | .cond number yes no, mode => fun place next =>
      if (place.group? number).isSome then yes.run mode place next else no.run mode place next

/-- Whether a node matches from some place at or after the given one. -/
def Node.findFrom (node : Node) (mode : Mode) (before : Text) (position : Nat) : Text -> Bool
  | [] => (node.run mode ⟨before, [], position, []⟩ some).isSome
  | c :: after =>
      (node.run mode ⟨before, c :: after, position, []⟩ some).isSome ||
        node.findFrom mode (c :: before) (position + 1) after

end Pattern

/-- Whether a pattern is found in a text. -/
def Pattern.isFoundIn (pattern : Pattern) (text : Text) : Bool :=
  pattern.node.findFrom pattern.mode [] 0 text

end Switchboard
