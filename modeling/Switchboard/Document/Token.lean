import Switchboard.Document.Property
import Switchboard.Document.Scalar.Block

namespace Switchboard
namespace Document

/-!
The tokens of a document.

Besides the marks that are written, tokens tell where nesting by indentation starts and ends.  A
simple key is noticed only by the colon behind it, so the tokens that start it are put in front of
it afterwards; a key has to end on its line and within `1024` characters.
-/

/-- A token. -/
inductive Token where
  | directive (directive : Directive)
  | documentStart
  | documentEnd
  | blockSequenceStart
  | blockMappingStart
  | blockEnd
  | flowSequenceStart
  | flowSequenceEnd
  | flowMappingStart
  | flowMappingEnd
  | blockEntry
  | flowEntry
  | key
  | value
  | reference (name : Text)
  | anchor (name : Text)
  | tag (tag : WrittenTag)
  /-- A scalar; it is plain if it is not marked as text by quotes or otherwise. -/
  | scalar (plain : Bool) (text : Text)
deriving Repr, DecidableEq

/-- A place that turns out to be the start of a simple key if a colon follows what is there. -/
structure PossibleKey where
  /-- The count of tokens in front of the key. -/
  before : Nat
  place : Cursor
  /-- Whether nothing but a key can stand at the place. -/
  required : Bool

/-- The state of splitting a text into tokens. -/
structure Scan where
  place : Cursor
  /-- The tokens so far, the last one first. -/
  tokens : List Token := []
  /-- The indentation of the open blocks, the innermost one first. -/
  indents : List Nat := []
  /-- The possible key of each level of brackets, the innermost one first. -/
  keys : List (Option PossibleKey) := [none]
  /-- Whether a simple key can start at the place. -/
  keyAllowed : Bool := true

namespace Scan

/-- Whether a place is inside brackets. -/
def inBrackets (scan : Scan) : Bool := 1 < scan.keys.length

/-- The least column of text inside the innermost block. -/
def innerColumn (scan : Scan) : Nat :=
  match scan.indents with
  | [] => 0
  | indent :: _ => indent + 1

/-- A token added. -/
def add (token : Token) (scan : Scan) : Scan := { scan with tokens := token :: scan.tokens }

/-- Tokens put in front of the ones that follow the first few. -/
def insertAfter (count : Nat) (inserted : List Token) (scan : Scan) : Scan :=
  let behind := scan.tokens.length - count
  { scan with
    tokens := scan.tokens.take behind ++ inserted.reverse ++ scan.tokens.drop behind }

/-- The places that can no longer be keys are given up; it is an error if one has to be. -/
def dropStaleKeys (scan : Scan) : Except Fault Scan :=
  let isStale (key : PossibleKey) : Bool :=
    key.place.line != scan.place.line || 1024 < scan.place.index - key.place.index
  if scan.keys.any fun key => key.any fun key => isStale key && key.required then
    .error .malformed
  else .ok { scan with keys := scan.keys.map fun key => key.filter fun key => !isStale key }

/-- The innermost level without a possible key; it is an error if there has to be one. -/
def dropKey (scan : Scan) : Except Fault Scan :=
  match scan.keys with
  | [] => .ok scan
  | key :: outer =>
      if key.any (·.required) then .error .malformed
      else .ok { scan with keys := none :: outer }

/-- The place as a possible key. -/
def saveKey (scan : Scan) : Except Fault Scan :=
  if scan.keyAllowed then do
    let required := !scan.inBrackets && scan.indents.head? == some scan.place.column
    let scan <- scan.dropKey
    pure { scan with keys := some ⟨scan.tokens.length, scan.place, required⟩ :: scan.keys.drop 1 }
  else .ok scan

/-- The blocks whose text is indented less than a column, the others being closed. -/
def unwind (column : Nat) (scan : Scan) : Scan :=
  if scan.inBrackets then scan
  else
    let closed := scan.indents.takeWhile fun indent => decide (column < indent)
    { scan with
      tokens := closed.map (fun _ => .blockEnd) ++ scan.tokens
      indents := scan.indents.drop closed.length }

/-- All blocks closed. -/
def unwindAll (scan : Scan) : Scan :=
  if scan.inBrackets then scan
  else
    { scan with
      tokens := scan.indents.map (fun _ => .blockEnd) ++ scan.tokens
      indents := [] }

/-- Whether a block starts at a column. -/
def startsBlock (column : Nat) (scan : Scan) : Bool := decide (scan.innerColumn <= column)

/-- A block opened at a column, if one starts there. -/
def openBlock (column : Nat) (token : Token) (scan : Scan) : Scan :=
  if scan.startsBlock column then { scan.add token with indents := column :: scan.indents }
  else scan

/-- The place behind blanks, comments and line breaks. A simple key can start on a new line. -/
def skipToToken : Nat -> Scan -> Scan
  | 0, scan => scan
  | count + 1, scan =>
      let place := scan.place.skipBlanks.skipComment
      match place.lineBreak? with
      | some (_, place) =>
          skipToToken count
            { scan with place, keyAllowed := scan.keyAllowed || !scan.inBrackets }
      | none => { scan with place }

/-- A mark between documents or a directive closes all blocks. -/
def closeAll (scan : Scan) : Except Fault Scan := do
  let scan <- scan.unwindAll.dropKey
  pure { scan with keyAllowed := false }

/-- A mark of a number of characters that is a token of its own. -/
def mark (token : Token) (width : Nat) (scan : Scan) : Scan :=
  { scan.add token with place := scan.place.skip width }

/-- An opening bracket. -/
def openBracket (token : Token) (scan : Scan) : Except Fault Scan := do
  let scan <- scan.saveKey
  pure { scan.mark token 1 with keys := none :: scan.keys, keyAllowed := true }

/-- A closing bracket. -/
def closeBracket (token : Token) (scan : Scan) : Except Fault Scan := do
  let scan <- scan.dropKey
  if scan.inBrackets then
    pure { scan.mark token 1 with keys := scan.keys.drop 1, keyAllowed := false }
  else .error .malformed

/-- A comma. -/
def comma (scan : Scan) : Except Fault Scan := do
  let scan <- scan.dropKey
  pure { scan.mark .flowEntry 1 with keyAllowed := true }

/-- The dash of an item. -/
def dash (scan : Scan) : Except Fault Scan := do
  if scan.inBrackets then .error .malformed
  else if !scan.keyAllowed then .error .malformed
  else
    let scan <- (scan.openBlock scan.place.column .blockSequenceStart).dropKey
    pure { scan.mark .blockEntry 1 with keyAllowed := true }

/-- The question mark of a key. -/
def questionMark (scan : Scan) : Except Fault Scan := do
  if scan.inBrackets then
    let scan <- scan.dropKey
    pure { scan.mark .key 1 with keyAllowed := false }
  else if !scan.keyAllowed then .error .malformed
  else
    let scan <- (scan.openBlock scan.place.column .blockMappingStart).dropKey
    pure { scan.mark .key 1 with keyAllowed := true }

/-- The colon behind a simple key. -/
def colonBehind (key : PossibleKey) (scan : Scan) : Scan :=
  let scan := { scan with keys := none :: scan.keys.drop 1, keyAllowed := false }
  let scan :=
    if !scan.inBrackets && scan.startsBlock key.place.column then
      { scan.insertAfter key.before [.blockMappingStart, .key] with
        indents := key.place.column :: scan.indents }
    else scan.insertAfter key.before [.key]
  scan.mark .value 1

/-- A colon. -/
def colon (scan : Scan) : Except Fault Scan :=
  match scan.keys.head?.join with
  | some key => .ok (scan.colonBehind key)
  | none => do
      if scan.inBrackets then
        let scan <- scan.dropKey
        pure { scan.mark .value 1 with keyAllowed := false }
      else if !scan.keyAllowed then .error .malformed
      else
        let scan <- (scan.openBlock scan.place.column .blockMappingStart).dropKey
        pure { scan.mark .value 1 with keyAllowed := true }

/-- A token that may be part of a simple key, read by a function on the place behind a number of
characters. -/
def keyPart (width : Nat) (token : α -> Token)
    (read : Cursor -> Except Fault (α × Cursor)) (scan : Scan) : Except Fault Scan := do
  let scan <- scan.saveKey
  let (value, place) <- read (scan.place.skip width)
  pure { scan.add (token value) with place, keyAllowed := false }

/-- A block scalar. -/
def block (folds : Bool) (scan : Scan) : Except Fault Scan := do
  let scan <- scan.dropKey
  let (text, place) <- blockScalar folds scan.innerColumn scan.place.next
  pure { scan.add (.scalar false text) with place, keyAllowed := true }

/-- A plain scalar. -/
def plain (scan : Scan) : Except Fault Scan := do
  let scan <- scan.saveKey
  let scalar := plainScalar scan.inBrackets scan.innerColumn scan.place
  pure
    { scan.add (.scalar true scalar.text) with
      place := scalar.place, keyAllowed := scalar.crossesLine }

/-- A directive. -/
def directive (scan : Scan) : Except Fault Scan := do
  let scan <- scan.closeAll
  let (directive, place) <- directiveAt scan.place.next
  pure { scan.add (.directive directive) with place }

/-- Whether a plain scalar can start with a character, given what comes after it. -/
def startsPlain (inBrackets : Bool) (c : Char) (after : Option Char) : Bool :=
  !(isGap (some c) || c ∈ "-?:,[]\x7b\x7d#&*!|>'\"%@`".toList) ||
    (!isGap after && (c = '-' || (!inBrackets && (c = '?' || c = ':'))))

/-- The token at a character. -/
def token (c : Char) (scan : Scan) : Except Fault Scan :=
  let after := scan.place.charAfter? 1
  let atStart := scan.place.column == 0
  if c = '%' && atStart then scan.directive
  else if atStart && scan.place.isAtMarks '-' then
    scan.closeAll.map (mark .documentStart 3)
  else if atStart && scan.place.isAtMarks '.' then
    scan.closeAll.map (mark .documentEnd 3)
  else if c = '[' then scan.openBracket .flowSequenceStart
  else if c = '\x7b' then scan.openBracket .flowMappingStart
  else if c = ']' then scan.closeBracket .flowSequenceEnd
  else if c = '\x7d' then scan.closeBracket .flowMappingEnd
  else if c = ',' then scan.comma
  else if c = '-' && isGap after then scan.dash
  else if c = '?' && (scan.inBrackets || isGap after) then scan.questionMark
  else if c = ':' && (scan.inBrackets || isGap after) then scan.colon
  else if c = '*' then scan.keyPart 1 .reference anchorName
  else if c = '&' then scan.keyPart 1 .anchor anchorName
  else if c = '!' then scan.keyPart 0 .tag tagAt
  else if c = '|' && !scan.inBrackets then scan.block false
  else if c = '>' && !scan.inBrackets then scan.block true
  else if c = '\'' then scan.keyPart 1 (.scalar false) (quotedScalar .single)
  else if c = '"' then scan.keyPart 1 (.scalar false) (quotedScalar .double)
  else if startsPlain scan.inBrackets c after then scan.plain
  else .error .malformed

/-- The tokens of the rest of a text, in order. -/
def finish : Nat -> Scan -> Except Fault (List Token)
  | 0, _ => .error .malformed
  | count + 1, scan => do
      let scan <- (scan.skipToToken (scan.place.rest.length + 1)).dropStaleKeys
      let scan := scan.unwind scan.place.column
      match scan.place.char? with
      | none =>
          let scan <- scan.closeAll
          pure scan.tokens.reverse
      | some c =>
          let scan <- scan.token c
          finish count scan

end Scan

/-- Whether a character can stand in a document. -/
def isAllowed (c : Char) : Bool :=
  let code := c.toNat
  code = 0x09 || code = 0x0A || code = 0x0D || (0x20 <= code && code <= 0x7E) || code = 0x85 ||
    (0xA0 <= code && code <= 0xD7FF) || (0xE000 <= code && code <= 0xFFFD) || 0x10000 <= code

/-- The tokens of a text. A byte order mark at its start does not count. -/
def tokens (text : Text) : Except Fault (List Token) :=
  if text.all isAllowed then
    let place : Cursor := ⟨text, 0, 0, 0⟩
    let place := if place.char? = some '\uFEFF' then place.next else place
    Scan.finish (text.length + 1) { place }
  else .error .malformed

end Document
end Switchboard
