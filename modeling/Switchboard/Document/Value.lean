import Switchboard.Document.Bytes
import Switchboard.Document.Node
import Switchboard.Document.Numeral
import Switchboard.Document.Reader
import Switchboard.Text.Case

namespace Switchboard
namespace Document

/-!
The value of a document.

Each part of the structure gives a value by its type.  Entries that are merged into a mapping come
in front of its own, so that its own ones decide; of several mappings that are merged, the first
one decides.  Only simple values can be keys.

Values are made turn by turn: a collection is made empty at first, and filled in the turn after that,
so that what is nested more deeply is made later.  Of several faults the one that comes up in the
earliest turn counts, and of one turn the first one.
-/

/-- A result, or a fault and the count of the turns before the one in which it comes up. -/
abbrev Turned (α : Type) := Except (Nat × Fault) α

namespace Turned

/-- A result that is made at once. -/
def atOnce (result : Except Fault α) : Turned α := result.mapError fun fault => (0, fault)

/-- A result that is made a turn later. -/
def later (result : Turned α) : Turned α := result.mapError fun (turn, fault) => (turn + 1, fault)

/-- Two results, the first of which is made first in every turn. -/
def both : Turned α -> Turned β -> Turned (α × β)
  | .ok first, .ok second => .ok (first, second)
  | .error fault, .ok _ => .error fault
  | .ok _, .error fault => .error fault
  | .error first, .error second => .error (if first.1 <= second.1 then first else second)

/-- An item and the ones behind it. -/
def cons (item : Turned α) (items : Turned (List α)) : Turned (List α) :=
  (item.both items).map fun (item, items) => item :: items

/-- Items and the ones behind them. -/
def append (items others : Turned (List α)) : Turned (List α) :=
  (items.both others).map fun (items, others) => items ++ others

end Turned

/-- The entries of a mapping: those merged into it, and its own. -/
structure Entries where
  /-- Whether nothing but mappings is merged. -/
  areSound : Bool := true
  merged : Turned (List (Datum × Datum)) := .ok []
  own : Turned (List (Datum × Datum)) := .ok []

namespace Entries

/-- All entries in order. -/
def inOrder (entries : Entries) : Turned (List (Datum × Datum)) :=
  entries.merged.append entries.own

/-- All entries, if they are sound: what is merged is looked at before any entry is made. -/
def all (entries : Entries) : Turned (List (Datum × Datum)) :=
  if entries.areSound then entries.inOrder else .error (0, .malformed)

end Entries

/-- Entries with each key once. -/
def unique (entries : List (Datum × Datum)) : List (Datum × Datum) :=
  entries.foldl (fun unique entry => Datum.setKey unique entry.1 entry.2) []

namespace Node

/-- The type of a part. -/
def kind : Node -> Kind
  | scalar kind _ => kind
  | sequence kind _ => kind
  | mapping kind _ => kind

/-- The truth value that a word gives. -/
def truthOf (word : Text) : Except Fault Datum :=
  match Kind.truthWords.find? fun entry => entry.1.toList == Text.lower word with
  | some entry => .ok (.bool entry.2)
  | none => .error (.noTruthValue (Text.lower word))

/-- The value of a scalar. -/
def scalarValue : Kind -> Text -> Except Fault Datum
  | .null, _ => .ok .null
  | .bool, word => truthOf word
  | .int, digits => (wholeOf digits).map .int
  | .float, digits => (decimalOf digits).map .float
  | .timestamp, date => dateOf date
  | .text, value => .ok (.text value)
  | .binary, value =>
      match bytesOf? value with
      | some bytes => .ok (.bytes bytes)
      | none => .error .malformed
  | _, _ => .error .malformed

mutual

/-- The text of a part where a scalar is wanted: that of a scalar, or of the stand-in of a
mapping. -/
def scalarText? : Node -> Option Text
  | scalar _ text => some text
  | sequence _ _ => none
  | mapping _ entries => standIn? entries

/-- The text of the first stand-in among entries. -/
def standIn? : List (Node × Node) -> Option Text
  | [] => none
  | (key, node) :: entries => if key.kind = .standIn then scalarText? node else standIn? entries

end

/-- The value of a part as a scalar of its type. -/
def asScalar (node : Node) : Except Fault Datum :=
  match scalarText? node with
  | some text => scalarValue node.kind text
  | none => .error .malformed

/-- The value of a key whose type is that of stand-ins; as a key it is text. -/
def standInKey (node : Node) : Except Fault Datum :=
  match scalarText? node with
  | some text => .ok (.text text)
  | none => .error .malformed

/-- A value of the wrong form for its type: at once, or when it is to be filled. -/
def misshapen (kind : Kind) : Turned α :=
  .error (if kind.isCollection then 1 else 0, .malformed)

mutual

/-- The value of a part. -/
def made : Node -> Turned Datum
  | scalar kind text =>
      if kind.isCollection then misshapen kind else .atOnce (scalarValue kind text)
  | sequence .list items => .later ((madeAll items).map .list)
  | sequence .orderedMap items => .later ((pairsOf items).map .list)
  | sequence .pairs items => .later ((pairsOf items).map .list)
  | sequence kind _ => misshapen kind
  | mapping .map entries => .later ((entriesOf entries).all.map fun all => .map (unique all))
  | mapping .set entries =>
      .later ((entriesOf entries).all.map fun all => .set ((unique all).map (·.1)))
  | mapping kind entries =>
      if kind.isCollection then misshapen kind else .atOnce (asScalar (mapping kind entries))

/-- The values of items. -/
def madeAll : List Node -> Turned (List Datum)
  | [] => .ok []
  | node :: nodes => (made node).cons (madeAll nodes)

/-- Pairs, each written as a mapping of one entry. -/
def pairsOf : List Node -> Turned (List Datum)
  | [] => .ok []
  | mapping _ [(key, node)] :: nodes =>
      let pair := ((made key).both (made node)).map fun (key, value) => Datum.pair key value
      .cons pair (pairsOf nodes)
  | _ :: _ => .error (0, .malformed)

/-- The entries of a mapping. -/
def entriesOf : List (Node × Node) -> Entries
  | [] => {}
  | (key, node) :: entries =>
      let found := entriesOf entries
      if key.kind = .merge then
        let merged := mergedBy node
        { found with
          areSound := merged.areSound && found.areSound
          merged := merged.inOrder.append found.merged }
      else
        let key :=
          if key.kind = .standIn then .atOnce (standInKey key)
          else if key.kind.isCollection then .error (0, .malformed)
          else made key
        { found with own := (key.both (made node)).cons found.own }

/-- The entries that the value of a merging key adds. -/
def mergedBy : Node -> Entries
  | scalar _ _ => { areSound := false }
  | mapping _ entries => entriesOf entries
  | sequence _ items => mergedByAll items

/-- The entries that a list of mappings adds, those of the first mapping last. -/
def mergedByAll : List Node -> Entries
  | [] => {}
  | mapping _ entries :: nodes =>
      let found := entriesOf entries
      let others := mergedByAll nodes
      { areSound := found.areSound && others.areSound
        own := others.inOrder.append found.inOrder }
  | _ :: _ => { areSound := false }

end

/-- The value of a whole document. -/
def datum (node : Node) : Except Fault Datum := node.made.mapError (·.2)

end Node

/-- The value that a text gives; a text without a document gives null. -/
def read (text : Text) : Except Fault Datum := do
  match <- Node.ofTokens (<- tokens text) with
  | none => pure .null
  | some node => node.datum

/-- The reader of this library. -/
instance : DocumentReader := ⟨read⟩

end Document
end Switchboard
