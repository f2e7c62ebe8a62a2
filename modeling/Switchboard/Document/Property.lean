import Switchboard.Document.Scalar.Quoted
import Switchboard.Text.Utf8

namespace Switchboard
namespace Document

/-!
The names that documents give to values and to types.

An anchor names a value, so that it can be referred to later.  A tag names the type of a value: in
full between angle brackets, or as a handle and the rest of the name, the handle being short for
the start of names.  Directives in front of a document say which version of the format it is in
and what handles are short for.
-/

/-- Whether a character can be part of the name of an anchor, a handle or a directive. -/
def isNameChar (c : Char) : Bool := c.isAlphanum || c = '-' || c = '_'

/-- Whether a character can be part of a tag. -/
def isTagChar (c : Char) : Bool :=
  c.isAlphanum || c ∈ "-;/?:@&=+$,_.!~*'()[]%".toList

/-- The name at a place, which cannot be empty. -/
def nameAt (place : Cursor) : Except Fault (Text × Cursor) :=
  let name := place.run isNameChar
  if name.isEmpty then .error .malformed else .ok (name, place.skip name.length)

/-- The name of an anchor, given the place behind its mark. -/
def anchorName (place : Cursor) : Except Fault (Text × Cursor) := do
  let (name, place) <- nameAt place
  let ends := match place.char? with
    | none => true
    | some c => isGap (some c) || c ∈ "?:,]\x7d%@`".toList
  if ends then pure (name, place) else .error .malformed

/-- The bytes of the numbered characters at the start of a text, up to a given count of them. -/
def escapedBytes : Nat -> Text -> Except Fault (List UInt8)
  | 0, _ => .ok []
  | count + 1, '%' :: rest =>
      match hexNumber? 2 0 rest with
      | none => .error .malformed
      | some value => do
          let more <- escapedBytes count (rest.drop 2)
          pure (UInt8.ofNat value :: more)
  | _ + 1, _ => .ok []

/-- The characters of a tag from a place on, joined to what has been read. -/
def tagRest : Nat -> Text -> Cursor -> Except Fault (Text × Cursor)
  | 0, read, place => .ok (read, place)
  | count + 1, read, place =>
      match place.char? with
      | none => .ok (read, place)
      | some c =>
          if c = '%' then do
            let bytes <- escapedBytes place.rest.length place.rest
            match Text.decodeUtf8 bytes with
            | .ok decoded => tagRest count (read ++ decoded) (place.skip (3 * bytes.length))
            | .error _ => .error .malformed
          else if isTagChar c then tagRest count (read ++ [c]) place.next
          else .ok (read, place)

/-- The characters of a tag, of which there has to be one at least. -/
def tagChars (place : Cursor) : Except Fault (Text × Cursor) :=
  match place.char? with
  | none => .error .malformed
  | some c => if isTagChar c then tagRest place.rest.length [] place else .error .malformed

/-- The handle at a place: a single mark in front of a blank, or a name between two marks. -/
def handleAt (place : Cursor) : Except Fault (Text × Cursor) :=
  if place.char? != some '!' then .error .malformed
  else if place.charAfter? 1 = some ' ' then .ok (['!'], place.next)
  else
    let name := place.next.run isNameChar
    if place.charAfter? (name.length + 1) = some '!' then
      .ok ('!' :: name ++ ['!'], place.skip (name.length + 2))
    else .error .malformed

/-- A tag as it is written. -/
structure WrittenTag where
  handle : Option Text
  name : Text
deriving Repr, DecidableEq

/-- Whether the tag at a place has a handle between two marks, given what follows its mark. -/
def hasNamedHandle (rest : Text) : Bool :=
  (rest.takeWhile fun c => !isBlankOrEnd (some c)).any (· == '!')

/-- A tag that is written without a handle of its own, or with one. -/
def shortTag (place : Cursor) : Except Fault (WrittenTag × Cursor) := do
  if hasNamedHandle place.next.rest then
    let (handle, place) <- handleAt place
    let (name, place) <- tagChars place
    pure (⟨some handle, name⟩, place)
  else
    let (name, place) <- tagChars place.next
    pure (⟨some ['!'], name⟩, place)

/-- A tag that is written in full, given the place behind its angle bracket. -/
def fullTag (place : Cursor) : Except Fault (WrittenTag × Cursor) := do
  let (name, place) <- tagChars place
  if place.char? = some '>' then pure (⟨none, name⟩, place.next) else .error .malformed

/-- The tag at a place. -/
def tagAt (place : Cursor) : Except Fault (WrittenTag × Cursor) := do
  let (tag, place) <-
    if place.charAfter? 1 = some '<' then fullTag (place.skip 2)
    else if isGap (place.charAfter? 1) then pure (⟨none, ['!']⟩, place.next)
    else shortTag place
  if isBlankOrEnd place.char? then pure (tag, place) else .error .malformed

/-- What a directive says. -/
inductive Directive where
  | version (major : Nat)
  /-- A handle, and the start of names that it is short for. -/
  | handle (name meaning : Text)
  | other
deriving Repr, DecidableEq

/-- The whole number at a place. -/
def numberAt (place : Cursor) : Except Fault (Nat × Cursor) :=
  let digits := place.run Char.isDigit
  if digits.isEmpty then .error .malformed
  else if Numeral.digitLimit < digits.length then .error (.tooManyDigits digits.length)
  else
    .ok (digits.foldl (fun total c => total * 10 + (c.toNat - '0'.toNat)) 0,
      place.skip digits.length)

/-- The version that a directive gives. -/
def versionAt (place : Cursor) : Except Fault (Directive × Cursor) := do
  let (major, place) <- numberAt place.skipBlanks
  if place.char? != some '.' then .error .malformed
  else
    let (_, place) <- numberAt place.next
    if isBlankOrEnd place.char? then pure (.version major, place) else .error .malformed

/-- The handle that a directive gives. -/
def handleMeaningAt (place : Cursor) : Except Fault (Directive × Cursor) := do
  let (name, place) <- handleAt place.skipBlanks
  if place.char? != some ' ' then .error .malformed
  else
    let (meaning, place) <- tagChars place.skipBlanks
    if isBlankOrEnd place.char? then pure (.handle name meaning, place) else .error .malformed

/-- The directive at a place, given the place behind its mark. Directives that are not known are
passed over. -/
def directiveAt (place : Cursor) : Except Fault (Directive × Cursor) := do
  let (name, place) <- nameAt place
  if !isBlankOrEnd place.char? then .error .malformed
  else
    let (directive, place) <-
      if name = "YAML".toList then versionAt place
      else if name = "TAG".toList then handleMeaningAt place
      else pure (.other, place.skipWhile (!isLineBreak ·))
    let place := place.skipBlanks.skipComment
    if isLineEnd place.char? then
      pure (directive, (place.lineBreak?.map (·.2)).getD place)
    else .error .malformed

end Document
end Switchboard
