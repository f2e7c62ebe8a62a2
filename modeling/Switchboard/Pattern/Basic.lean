import Switchboard.Text.Basic

namespace Switchboard
namespace Pattern

/-!
Search patterns as trees.

A pattern is read from text into a `Node`.  Letter case, line mode and the like are not part of a
node: they are a `Mode` that the whole pattern is matched in and that a scoped group changes for
its body.  Characters are code points here, because a pattern may name a surrogate, which no text
holds.
-/

/-- The letters of mode switches that are in force. -/
abbrev Switches := List Char

/-- A change of mode for the body of a group. -/
structure ModeChange where
  turnOn : Switches
  turnOff : Switches
deriving Repr, DecidableEq

/-- The change that changes nothing. -/
def ModeChange.none : ModeChange := ⟨[], []⟩

/-- How a pattern is matched. -/
structure Mode where
  /-- Letters match without regard to case. -/
  ignoreCase : Bool
  /-- Lines, and not only the whole text, have a start and an end. -/
  byLine : Bool
  /-- The dot matches a line feed too. -/
  dotAll : Bool
  /-- Classes and letter case know ASCII only. -/
  ascii : Bool
deriving Repr, DecidableEq

/-- The mode in the body of a group with a change of mode. -/
def Mode.change (mode : Mode) (change : ModeChange) : Mode :=
  let setting (old : Bool) (letter : Char) : Bool :=
    (old || change.turnOn.contains letter) && !change.turnOff.contains letter
  { ignoreCase := setting mode.ignoreCase 'i'
    byLine := setting mode.byLine 'm'
    dotAll := setting mode.dotAll 's'
    ascii := change.turnOn.contains 'a' || (mode.ascii && !change.turnOn.contains 'u') }

/-- A class of characters. -/
inductive CharClass where
  | digit
  | space
  | word
deriving Repr, DecidableEq

/-- A member of a character set. -/
inductive Member where
  | one (code : Nat)
  | range (first last : Nat)
  | cls (cls : CharClass) (negated : Bool)
deriving Repr, DecidableEq

/-- A condition on a place in the text. -/
inductive Anchor where
  | lineStart
  | lineEnd
  | textStart
  | textEnd
  | boundary
  | nonBoundary
deriving Repr, DecidableEq

/-- Which counts of repetitions are tried first, and whether others are tried at all. -/
inductive Greed where
  | greedy
  | lazy
  | possessive
deriving Repr, DecidableEq

/-- The least and the greatest number of characters that a node matches. -/
structure Width where
  least : Nat
  /-- Nothing stands for no bound. -/
  most : Option Nat
deriving Repr, DecidableEq

/-- A pattern. -/
inductive Node where
  | empty
  | char (code : Nat) (negated : Bool)
  | any
  | set (members : List Member) (negated : Bool)
  | anchor (anchor : Anchor)
  | seq (first second : Node)
  | alt (first second : Node)
  | group (number : Nat) (body : Node)
  | scoped (change : ModeChange) (body : Node)
  | atomic (body : Node)
  | loop (greed : Greed) (least : Nat) (most : Option Nat) (body : Node)
  | ahead (negated : Bool) (body : Node)
  | behind (negated : Bool) (width : Width) (body : Node)
  | backref (number : Nat) (width : Width)
  | cond (number : Nat) (yes no : Node)
deriving Repr, DecidableEq, Inhabited

namespace Width

/-- The width of nothing. -/
def zero : Width := ⟨0, some 0⟩

/-- The width of one character. -/
def one : Width := ⟨1, some 1⟩

/-- The sum of two bounds, of which either may be missing. -/
def addBound : Option Nat -> Option Nat -> Option Nat
  | some a, some b => some (a + b)
  | _, _ => none

/-- The greater of two bounds, of which either may be missing. -/
def maxBound : Option Nat -> Option Nat -> Option Nat
  | some a, some b => some (max a b)
  | _, _ => none

/-- The bound of a repeated body. -/
def timesBound : Option Nat -> Option Nat -> Option Nat
  | some 0, _ => some 0
  | _, some 0 => some 0
  | some a, some b => some (a * b)
  | _, _ => none

/-- One after the other. -/
def add (a b : Width) : Width := ⟨a.least + b.least, addBound a.most b.most⟩

/-- One or the other. -/
def either (a b : Width) : Width := ⟨min a.least b.least, maxBound a.most b.most⟩

end Width

/-- The width of a node. -/
def Node.width : Node -> Width
  | .empty => .zero
  | .char _ _ => .one
  | .any => .one
  | .set _ _ => .one
  | .anchor _ => .zero
  | .seq first second => first.width.add second.width
  | .alt first second => first.width.either second.width
  | .group _ body => body.width
  | .scoped _ body => body.width
  | .atomic body => body.width
  | .loop _ least most body =>
      ⟨body.width.least * least, Width.timesBound body.width.most most⟩
  | .ahead _ _ => .zero
  | .behind _ _ _ => .zero
  | .backref _ width => width
  | .cond _ yes no => yes.width.either no.width

/-- The nodes one after another. -/
def Node.ofList : List Node -> Node
  | [] => .empty
  | [node] => node
  | node :: nodes => .seq node (Node.ofList nodes)

/-- The nodes as alternatives, tried in order. -/
def Node.anyOf : List Node -> Node
  | [] => .empty
  | [node] => node
  | node :: nodes => .alt node (Node.anyOf nodes)

end Pattern

/-- A pattern together with the mode it is matched in. -/
structure Pattern where
  node : Pattern.Node
  mode : Pattern.Mode
deriving Repr, DecidableEq

end Switchboard
