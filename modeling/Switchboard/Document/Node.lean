import Switchboard.Document.Calendar
import Switchboard.Document.Kind
import Switchboard.Document.Token

namespace Switchboard
namespace Document

/-!
The structure of a document: scalars, sequences and mappings, each with its type.

A reference stands for the value that its anchor names, so that there is nothing left to look up
in the structure.  An anchor names one value only.  A reference inside the very value that it
names stands for an empty value of its form.

Missing keys, values and items are empty scalars.
-/

/-- A part of a document. -/
inductive Node where
  | scalar (kind : Kind) (text : Text)
  | sequence (kind : Kind) (items : List Node)
  | mapping (kind : Kind) (entries : List (Node × Node))
deriving Inhabited

namespace Node

/-- What a missing value stands for. -/
def empty : Node := .scalar .null []

/-- What has been read of a document so far. -/
structure Reading where
  tokens : List Token
  anchors : List (Text × Node) := []
  /-- What handles are short for. -/
  handles : List (Text × Text)

namespace Reading

/-- The next token. -/
def token? (reading : Reading) : Option Token := reading.tokens.head?

/-- The reading behind the next token. -/
def next (reading : Reading) : Reading := { reading with tokens := reading.tokens.drop 1 }

/-- Whether the next token is one of the given ones. -/
def isAt (reading : Reading) (tokens : List Token) : Bool :=
  reading.token?.any fun token => token ∈ tokens

/-- The reading behind a given token, which has to be next. -/
def expect (token : Token) (reading : Reading) : Except Fault Reading :=
  if reading.token? = some token then .ok reading.next else .error .malformed

/-- A name given to a value. -/
def withAnchor (anchor : Option Text) (node : Node) (reading : Reading) : Reading :=
  match anchor with
  | none => reading
  | some name => { reading with anchors := (name, node) :: reading.anchors }

end Reading

/-- The name of a value and its tag, as far as they are given. -/
structure Properties where
  anchor : Option Text := none
  tag : Option WrittenTag := none

/-- The properties in front of a value, in either order. -/
def properties (reading : Reading) : Properties × Reading :=
  match reading.tokens with
  | .anchor name :: .tag tag :: rest => (⟨some name, some tag⟩, { reading with tokens := rest })
  | .tag tag :: .anchor name :: rest => (⟨some name, some tag⟩, { reading with tokens := rest })
  | .anchor name :: rest => (⟨some name, none⟩, { reading with tokens := rest })
  | .tag tag :: rest => (⟨none, some tag⟩, { reading with tokens := rest })
  | _ => ({}, reading)

/-- The tag that leaves the type of a value open. -/
def openTag : Text := ['!']

/-- The full name of a type, if there is a tag that does not leave it open. -/
def tagName (handles : List (Text × Text)) : Option WrittenTag -> Except Fault (Option Text)
  | none => .ok none
  | some tag =>
      let name := match tag.handle with
        | none => some tag.name
        | some handle => (handles.lookup handle).map (· ++ tag.name)
      match name with
      | none => .error .malformed
      | some name => .ok (if name = openTag then none else some name)

/-- The type of a scalar. A tag that leaves it open makes the scalar a plain one. -/
def scalarKind (name : Option Text) (isTagged plain : Bool) (text : Text) : Kind :=
  match name with
  | some name => Kind.ofName name
  | none => if plain || isTagged then Kind.ofPlain isDate text else .text

/-- The type of a collection. -/
def collectionKind (name : Option Text) (form : Kind) : Kind := (name.map Kind.ofName).getD form

/-- The tokens in front of which a key, a value or an item of a block is missing. -/
def blockEnds : List Token := [.key, .value, .blockEnd]

mutual

/-- The value at a reading: one that may be a block, one that may be a sequence whose items are
not indented, or one inside brackets. -/
def value : Nat -> Bool -> Bool -> Reading -> Except Fault (Node × Reading)
  | 0, _, _, _ => .error .malformed
  | count + 1, inBlock, bare, reading =>
      match reading.token? with
      | some (.reference name) =>
          match reading.anchors.lookup name with
          | some node => .ok (node, reading.next)
          | none => .error .malformed
      | _ => do
          let (given, reading) := properties reading
          let name <- tagName reading.handles given.tag
          if given.anchor.any fun anchor => (reading.anchors.lookup anchor).isSome then
            .error .malformed
          else
            let asList := collectionKind name .list
            let asMap := collectionKind name .map
            let list (items : List Node) := Node.sequence asList items
            let map (entries : List (Node × Node)) := Node.mapping asMap entries
            let inList := reading.withAnchor given.anchor (list [])
            let inMap := reading.withAnchor given.anchor (map [])
            match reading.token? with
            | some (.scalar plain text) =>
                let node := Node.scalar (scalarKind name given.tag.isSome plain text) text
                pure (node, reading.next.withAnchor given.anchor node)
            | some .flowSequenceStart =>
                let (items, reading) <- flowItems count true inList.next
                pure (list items, reading.withAnchor given.anchor (list items))
            | some .flowMappingStart =>
                let (entries, reading) <- flowEntries count true inMap.next
                pure (map entries, reading.withAnchor given.anchor (map entries))
            | token =>
                if token = some .blockEntry && bare then
                  let (items, reading) <- bareItems count inList
                  pure (list items, reading.withAnchor given.anchor (list items))
                else if token = some .blockSequenceStart && inBlock then
                  let (items, reading) <- blockItems count inList.next
                  pure (list items, reading.withAnchor given.anchor (list items))
                else if token = some .blockMappingStart && inBlock then
                  let (entries, reading) <- blockEntries count inMap.next
                  pure (map entries, reading.withAnchor given.anchor (map entries))
                else if given.anchor.isSome || given.tag.isSome then
                  let node := Node.scalar (scalarKind name given.tag.isSome true []) []
                  pure (node, reading.withAnchor given.anchor node)
                else .error .malformed

/-- The items of a sequence that is a block. -/
def blockItems : Nat -> Reading -> Except Fault (List Node × Reading)
  | 0, _ => .error .malformed
  | count + 1, reading =>
      if reading.isAt [.blockEntry] then do
        let (item, reading) <-
          if reading.next.isAt [.blockEntry, .blockEnd] then pure (empty, reading.next)
          else value count true false reading.next
        let (items, reading) <- blockItems count reading
        pure (item :: items, reading)
      else do
        let reading <- reading.expect .blockEnd
        pure ([], reading)

/-- The items of a sequence in a mapping that are not indented. -/
def bareItems : Nat -> Reading -> Except Fault (List Node × Reading)
  | 0, _ => .error .malformed
  | count + 1, reading =>
      if reading.isAt [.blockEntry] then do
        let (item, reading) <-
          if reading.next.isAt (.blockEntry :: blockEnds) then pure (empty, reading.next)
          else value count true false reading.next
        let (items, reading) <- bareItems count reading
        pure (item :: items, reading)
      else .ok ([], reading)

/-- The entries of a mapping that is a block. -/
def blockEntries : Nat -> Reading -> Except Fault (List (Node × Node) × Reading)
  | 0, _ => .error .malformed
  | count + 1, reading =>
      if reading.isAt [.key] then do
        let (key, reading) <- blockPart count .key reading
        let (node, reading) <- blockPart count .value reading
        let (entries, reading) <- blockEntries count reading
        pure ((key, node) :: entries, reading)
      else do
        let reading <- reading.expect .blockEnd
        pure ([], reading)

/-- The key or the value of an entry of a block, behind its mark; without the mark it is missing. -/
def blockPart : Nat -> Token -> Reading -> Except Fault (Node × Reading)
  | 0, _, _ => .error .malformed
  | count + 1, mark, reading =>
      if !reading.isAt [mark] || reading.next.isAt blockEnds then
        .ok (empty, if reading.isAt [mark] then reading.next else reading)
      else value count true true reading.next

/-- The items of a sequence in brackets; a key among them starts a mapping of one entry. -/
def flowItems : Nat -> Bool -> Reading -> Except Fault (List Node × Reading)
  | 0, _, _ => .error .malformed
  | count + 1, isFirst, reading =>
      if reading.isAt [.flowSequenceEnd] then .ok ([], reading.next)
      else do
        let reading <- if isFirst then pure reading else reading.expect .flowEntry
        if reading.isAt [.flowSequenceEnd] then pure ([], reading.next)
        else
          let (item, reading) <-
            if reading.isAt [.key] then do
              let (key, reading) <- flowPart count .key .flowSequenceEnd reading
              let (node, reading) <- flowPart count .value .flowSequenceEnd reading
              pure (Node.mapping .map [(key, node)], reading)
            else value count false false reading
          let (items, reading) <- flowItems count false reading
          pure (item :: items, reading)

/-- The entries of a mapping in brackets; a value without a key mark is a key of its own. -/
def flowEntries : Nat -> Bool -> Reading -> Except Fault (List (Node × Node) × Reading)
  | 0, _, _ => .error .malformed
  | count + 1, isFirst, reading =>
      if reading.isAt [.flowMappingEnd] then .ok ([], reading.next)
      else do
        let reading <- if isFirst then pure reading else reading.expect .flowEntry
        if reading.isAt [.flowMappingEnd] then pure ([], reading.next)
        else
          let (entry, reading) <-
            if reading.isAt [.key] then do
              let (key, reading) <- flowPart count .key .flowMappingEnd reading
              let (node, reading) <- flowPart count .value .flowMappingEnd reading
              pure ((key, node), reading)
            else do
              let (key, reading) <- value count false false reading
              pure ((key, empty), reading)
          let (entries, reading) <- flowEntries count false reading
          pure (entry :: entries, reading)

/-- The key or the value of an entry in brackets, behind its mark; without the mark it is
missing. -/
def flowPart : Nat -> Token -> Token -> Reading -> Except Fault (Node × Reading)
  | 0, _, _, _ => .error .malformed
  | count + 1, mark, closing, reading =>
      if !reading.isAt [mark] then .ok (empty, reading)
      else if reading.next.isAt [.value, .flowEntry, closing] then .ok (empty, reading.next)
      else value count false false reading.next

end

/-- The handles that need no directive. -/
def builtinHandles : List (Text × Text) := [(['!'], ['!']), (['!', '!'], commonTags)]

/-- Directives in front of a document: whether a version has been given, and the handles. -/
def directives : Bool -> List (Text × Text) -> List Token ->
    Except Fault (List (Text × Text) × List Token)
  | hasVersion, handles, .directive directive :: rest =>
      match directive with
      | .version major =>
          if hasVersion || major != 1 then .error .malformed else directives true handles rest
      | .handle name meaning =>
          if (handles.lookup name).isSome then .error .malformed
          else directives hasVersion ((name, meaning) :: handles) rest
      | .other => directives hasVersion handles rest
  | _, handles, rest => .ok (handles, rest)

/-- The tokens behind marks that end documents. -/
def skipEnds (tokens : List Token) : List Token := tokens.dropWhile (· == .documentEnd)

/-- A document that starts without a mark. -/
def bareDocument (tokens : List Token) : Except Fault (Node × Reading) :=
  value (4 * tokens.length + 4) true false ⟨tokens, [], builtinHandles⟩

/-- A document behind its directives and its mark; it may be empty. -/
def markedDocument (handles : List (Text × Text)) (tokens : List Token) :
    Except Fault (Node × Reading) :=
  let reading : Reading := ⟨tokens, [], handles ++ builtinHandles⟩
  match tokens with
  | [] => .ok (empty, reading)
  | .directive _ :: _ => .ok (empty, reading)
  | .documentStart :: _ => .ok (empty, reading)
  | .documentEnd :: _ => .ok (empty, reading)
  | _ => value (4 * tokens.length + 4) true false reading

/-- The first document of a stream. -/
def firstDocument (tokens : List Token) : Except Fault (Node × Reading) :=
  match tokens with
  | .documentStart :: rest => markedDocument [] rest
  | .directive _ :: _ => do
      let (handles, rest) <- directives false [] tokens
      match rest with
      | .documentStart :: rest => markedDocument handles rest
      | _ => .error .malformed
  | _ => bareDocument tokens

/-- The structure of a text; there cannot be more than one document in it. -/
def ofTokens (tokens : List Token) : Except Fault (Option Node) :=
  if tokens.isEmpty then .ok none
  else do
    let (node, reading) <- firstDocument tokens
    if (skipEnds reading.tokens).isEmpty then pure (some node) else .error .malformed

end Node
end Document
end Switchboard
