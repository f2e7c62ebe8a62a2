import Switchboard.Number.Whole
import Switchboard.Pattern.CharSet

namespace Switchboard
namespace Pattern

/-!
Reading a pattern.

Alternatives are sequences between bars, a sequence is a list of items, and an item is a character,
a set, an anchor, an escape or a group, with or without a repetition behind it.  The functions
take an allowance that each step of the reading lowers by one; `read` gives them more than the
longest pattern of its length can use.
-/

variable [CharacterNames]

/-- Marks that do not stand for themselves in a sequence. -/
def isSpecial (c : Char) : Bool := ".\\[\x7b()*+?^$|".toList.contains c

/-- Marks that repeat the item before them. -/
def isRepeatMark (c : Char) : Bool := c == '*' || c == '+' || c == '?' || c == '\x7b'

/-- Blanks that verbose patterns may hold. -/
def isLayout (c : Char) : Bool := Text.isAsciiBlank c

/-- The least count that is refused. -/
def repetitionLimit : Nat := 4294967295

/-- How often an item is repeated. -/
structure Count where
  least : Nat
  most : Option Nat
deriving Repr, DecidableEq

namespace Count

/-- A count in digits. -/
def bound (digits : Text) : Read Nat :=
  if Numeral.digitLimit < digits.length then throw (.repetitionTooLong digits.length)
  else
    let value := numeral 10 digits
    if repetitionLimit <= value then throw .repetitionTooLarge else return value

/-- The counts between braces, whose opening brace is read.  Without the closing brace, or when
nothing stands between the braces, the opening brace is an ordinary character and nothing more is
read. -/
def braces : Read (Option Count) := do
  let start <- get
  if <- Read.nextIs '\x7d' then return none
  let low <- Read.takeAll Char.isDigit
  let high <- if <- Read.accept ',' then Read.takeAll Char.isDigit else pure low
  if <- Read.accept '\x7d' then
    let least <- if low.isEmpty then pure 0 else bound low
    if high.isEmpty then return some ⟨least, none⟩
    else
      let most <- bound high
      if most < least then Read.failAt .leastAboveMost start.position
      else return some ⟨least, some most⟩
  else
    set start
    return none

/-- The counts of a repeat mark that is read. -/
def read (mark : Char) : Read (Option Count) :=
  if mark = '*' then return some ⟨0, none⟩
  else if mark = '+' then return some ⟨1, none⟩
  else if mark = '?' then return some ⟨0, some 1⟩
  else braces

end Count

/-- The greed that the mark behind a count asks for. -/
def readGreed : Read Greed := do
  if <- Read.accept '?' then return .lazy
  else if <- Read.accept '+' then return .possessive
  else return .greedy

/-- The items after the latest one, the first of the list, is repeated. -/
def repeatLatest (count : Count) (position : Nat) : List Node -> Read (List Node)
  | [] => Read.failAt .nothingToRepeat position
  | .anchor _ :: _ => Read.failAt .nothingToRepeat position
  | .loop _ _ _ _ :: _ => Read.failAt .multipleRepeat position
  | item :: items => do return .loop (<- readGreed) count.least count.most item :: items

/-- What a group leaves behind. -/
inductive GroupResult where
  | item (node : Node)
  | comment
  /-- Switches for the whole pattern, from a group opened at the position. -/
  | switches (opened : Nat)

/-- The group number that a condition gives. -/
def conditionNumber? (name : Text) : Option Nat :=
  match Numeral.readWhole 10 name with
  | .ok (.ofNat number) => some number
  | _ => none

/-- The greatest count of groups. -/
def groupLimit : Nat := 1073741823

/-- The group that a condition asks about, its opening parenthesis being read. -/
def readCondition : Read Nat := do
  let name <- Read.name ')' "group name"
  let back := name.length + 1
  let number <-
    if Text.isIdentifier name then
      match (<- get).names.lookup name with
      | some number => pure number
      | none => Read.fail (.unknownGroupName name) back
    else
      match conditionNumber? name with
      | none => Read.fail (.badGroupName name) back
      | some number =>
          if number = 0 then Read.fail .badGroupNumber back
          else if groupLimit <= number then Read.fail (.invalidReference number) back
          else
            modify fun reader =>
              if (reader.conditions.lookup number).isSome then reader
              else { reader with
                     conditions := (number, reader.position - back) :: reader.conditions }
            pure number
  Read.checkLookbehind number
  return number

/-- A group name and the mark behind it. -/
def readGroupName (terminator : Char) : Read Text := do
  let name <- Read.name terminator "group name"
  if Text.isIdentifier name then return name
  else Read.fail (.badGroupName name) (name.length + 1)

/-- A reference to a named group, whose opening is read. -/
def readNamedReference : Read Node := do
  let name <- readGroupName ')'
  let back := name.length + 1
  let reader <- get
  match reader.names.lookup name with
  | none => Read.fail (.unknownGroupName name) back
  | some number =>
      match reader.closedWidth? number with
      | none => Read.fail .openGroup back
      | some width =>
          Read.checkLookbehind number
          return .backref number width

/-- The closing parenthesis of a group that was opened at a position. -/
def closing (opened : Nat) : Read Unit := do
  if <- Read.accept ')' then return () else Read.failAt .unterminatedGroup opened

/-- A comment that was opened at a position; at most a given number of tokens is taken. -/
def readComment (opened : Nat) : Nat -> Read Unit
  | 0 => Read.failAt .unterminatedComment opened
  | count + 1 => do
      match <- Read.take with
      | none => Read.failAt .unterminatedComment opened
      | some token => if token.isPlain (· == ')') then return () else readComment opened count

/-- A group with a number, around what `body` reads. -/
def readCapture (opened : Nat) (name : Option Text) (body : Read Node) : Read GroupResult := do
  let number <- Read.openGroup name
  let node <- body
  closing opened
  Read.closeGroup number node.width
  return .item (.group number node)

/-- A lookbehind around what `body` reads. Groups opened inside the outermost one belong to it. -/
def readLookbehind (opened : Nat) (negated : Bool) (body : Read Node) : Read GroupResult := do
  let outer := (<- get).lookbehindFrom
  modify fun reader => { reader with lookbehindFrom := some (outer.getD reader.groupCount) }
  let node <- body
  modify fun reader => { reader with lookbehindFrom := outer }
  closing opened
  return .item (.behind negated node.width node)

mutual

/-- Alternatives between bars.  At the top level, switches for the whole pattern that an
alternative turns on hold for the layout of the next one. -/
def readAlternatives (allowance : Nat) (top verbose : Bool) : Read Node :=
  match allowance with
  | 0 => Read.fail .unexpectedEnd 0
  | allowance + 1 => do return Node.anyOf (<- readBranches allowance top verbose true)

/-- The alternatives from the next one on. -/
def readBranches (allowance : Nat) (top verbose leading : Bool) : Read (List Node) :=
  match allowance with
  | 0 => Read.fail .unexpectedEnd 0
  | allowance + 1 => do
      let branch <- readSequence allowance verbose (top && leading) []
      if <- Read.accept '|' then
        let reader <- get
        let verbose := if top then reader.switches.contains 'x' else verbose
        return branch :: (<- readBranches allowance top verbose false)
      else return [branch]

/-- The rest of a sequence, given the items read so far, the latest first. -/
def readSequence (allowance : Nat) (verbose leading : Bool) (items : List Node) : Read Node :=
  match allowance with
  | 0 => Read.fail .unexpectedEnd 0
  | allowance + 1 => do
      match <- Read.next with
      | none => return Node.ofList items.reverse
      | some token =>
          if token.isPlain (fun c => c == '|' || c == ')') then
            return Node.ofList items.reverse
          discard Read.take
          if verbose && token.isPlain isLayout then
            readSequence allowance verbose leading items
          else if verbose && token.isPlain (· == '#') then
            Read.skipPast (· == '\n') (<- get).rest.length
            readSequence allowance verbose leading items
          else if token.escaped then
            readSequence allowance verbose leading ((<- Escape.outsideSet token.char) :: items)
          else
            let c := token.char
            if isRepeatMark c then
              let position := (<- get).position - 1
              match <- Count.read c with
              | none => readSequence allowance verbose leading (.char c.toNat false :: items)
              | some count =>
                  readSequence allowance verbose leading (<- repeatLatest count position items)
            else if c = '(' then
              match <- readGroup allowance verbose with
              | .item node => readSequence allowance verbose leading (node :: items)
              | .comment => readSequence allowance verbose leading items
              | .switches opened =>
                  if leading && items.isEmpty then
                    let verbose := (<- get).switches.contains 'x'
                    readSequence allowance verbose leading items
                  else Read.failAt .switchesNotFirst opened
            else if c = '[' then
              readSequence allowance verbose leading ((<- CharSet.read) :: items)
            else
              let node := match c with
                | '.' => Node.any
                | '^' => .anchor .lineStart
                | '$' => .anchor .lineEnd
                | c => .char c.toNat false
              readSequence allowance verbose leading (node :: items)

/-- A group whose opening parenthesis is read. -/
def readGroup (allowance : Nat) (verbose : Bool) : Read GroupResult :=
  match allowance with
  | 0 => Read.fail .unexpectedEnd 0
  | allowance + 1 => do
      let opened := (<- get).position - 1
      let extended <- Read.accept '?'
      if !extended then
        readCapture opened none (readAlternatives allowance false verbose)
      else
        match <- Read.take with
        | none => Read.fail .unexpectedEnd 0
        | some token =>
            if token.escaped then
              Read.fail (.unknownExtension token.written) (token.written.length + 1)
            else if token.char = 'P' then
              if <- Read.accept '<' then
                let name <- readGroupName '>'
                readCapture opened (some name) (readAlternatives allowance false verbose)
              else if <- Read.accept '=' then return .item (<- readNamedReference)
              else
                match <- Read.take with
                | none => Read.fail .unexpectedEnd 0
                | some other =>
                    Read.fail (.unknownExtension ('P' :: other.written))
                      (other.written.length + 2)
            else if token.char = ':' then
              let body <- readAlternatives allowance false verbose
              closing opened
              return .item (.scoped .none body)
            else if token.char = '#' then
              readComment opened ((<- get).rest.length + 1)
              return .comment
            else if token.char = '=' || token.char = '!' then
              let body <- readAlternatives allowance false verbose
              closing opened
              return .item (.ahead (token.char == '!') body)
            else if token.char = '<' then
              match <- Read.take with
              | none => Read.fail .unexpectedEnd 0
              | some kind =>
                  if kind.isPlain (fun c => c == '=' || c == '!') then
                    readLookbehind opened (kind.char == '!')
                      (readAlternatives allowance false verbose)
                  else
                    Read.fail (.unknownExtension ('<' :: kind.written)) (kind.written.length + 2)
            else if token.char = '(' then
              let number <- readCondition
              let yes <- readSequence allowance verbose false []
              let no <-
                if <- Read.accept '|' then
                  let no <- readSequence allowance verbose false []
                  if <- Read.nextIs '|' then Read.fail .tooManyBranches 0
                  pure no
                else pure .empty
              closing opened
              return .item (.cond number yes no)
            else if token.char = '>' then
              let body <- readAlternatives allowance false verbose
              closing opened
              return .item (.atomic body)
            else if token.char = '-' || Switch.isSwitch token then
              match <- Switch.read token.char with
              | none => return .switches opened
              | some change =>
                  let verbose :=
                    (verbose || change.turnOn.contains 'x') && !change.turnOff.contains 'x'
                  let body <- readAlternatives allowance false verbose
                  closing opened
                  return .item (.scoped change body)
            else Read.fail (.unknownExtension token.written) (token.written.length + 1)

end

/-- The first repetition or lookbehind that cannot be matched, outer nodes before inner ones and
left before right. -/
def Node.check (template : Bool) : Node -> Except Fault Unit
  | .seq first second => do first.check template; second.check template
  | .alt first second => do first.check template; second.check template
  | .group _ body => body.check template
  | .scoped _ body => body.check template
  | .atomic body => body.check template
  | .loop greed _ _ body =>
      if template then .error (.malformed (.templateRepeat greed) none) else body.check template
  | .ahead _ body => body.check template
  | .behind _ width body =>
      if repetitionLimit < width.least then .error (.malformed .endlessLookbehind none)
      else if width.most != some width.least then .error (.malformed .variableLookbehind none)
      else body.check template
  | .cond _ yes no => do yes.check template; no.check template
  | _ => .ok ()

/-- A whole pattern and the switches it turns on. -/
def readWhole (text : Text) : Read Node := do
  Read.moveTo text 0
  let node <- readAlternatives (4 * text.length + 16) true false
  let reader <- get
  if reader.switches.contains 'a' && reader.switches.contains 'u' then throw .switchConflict
  if !reader.rest.isEmpty then Read.fail .unbalancedParenthesis 0
  match reader.conditions.reverse.find? fun condition => reader.groupCount <= condition.1 with
  | some (number, position) => Read.failAt (.invalidReference number) position
  | none => return node

end Pattern

variable [CharacterNames]

/-- The pattern that a text writes.  Whether letters match without regard to case is given, unless a
group switches it. -/
def Pattern.readIn (ignoreCase : Bool) (text : Text) : Except Pattern.Fault Pattern := do
  let start : Pattern.Reader := ⟨[], 0, [], [], [], none, []⟩
  let (node, reader) <- (Pattern.readWhole text).run start
  node.check (reader.switches.contains 't')
  return ⟨node, ⟨ignoreCase, reader.switches.contains 'm', reader.switches.contains 's',
    reader.switches.contains 'a'⟩⟩

/-- The pattern that a text writes, for letters of either case. -/
def Pattern.read (text : Text) : Except Pattern.Fault Pattern := Pattern.readIn true text

end Switchboard
