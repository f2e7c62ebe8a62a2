import Switchboard.Document.Cursor

namespace Switchboard
namespace Document

/-!
The types of values in a document.

A tag gives the type of a value by name.  A plain scalar without a tag has the first type in whose
forms it is written; if there is none, it is text.
-/

/-- The type of a value. -/
inductive Kind where
  | null
  | bool
  | int
  | float
  | binary
  | timestamp
  | text
  | list
  | map
  | set
  | orderedMap
  | pairs
  /-- A key whose value is merged into its mapping. -/
  | merge
  /-- A key whose value stands for its mapping where text is wanted. -/
  | standIn
  | unknown
deriving Repr, DecidableEq, Inhabited

/-- The start of the names of the common types. -/
def commonTags : Text := "tag:yaml.org,2002:".toList

namespace Kind

/-- Whether values of a type are made of parts. -/
def isCollection (kind : Kind) : Bool := kind ∈ [list, map, set, orderedMap, pairs]

/-- The names of the common types. -/
def names : List (String × Kind) :=
  [("null", null), ("bool", bool), ("int", int), ("float", float), ("binary", binary),
   ("timestamp", timestamp), ("str", text), ("seq", list), ("map", map), ("set", set),
   ("omap", orderedMap), ("pairs", pairs), ("merge", merge), ("value", standIn)]

/-- The type of a full name. -/
def ofName (name : Text) : Kind :=
  match Text.dropLeading? commonTags name with
  | none => unknown
  | some short =>
      match names.find? fun entry => entry.1.toList == short with
      | some entry => entry.2
      | none => unknown

/-- The words for truth values: true ones and false ones. -/
def truthWords : List (String × Bool) :=
  [("yes", true), ("no", false), ("true", true), ("false", false), ("on", true), ("off", false)]

/-- Whether a text is a word in lower case, in upper case, or with its first letter alone in upper
case. -/
def isCased (word : String) (text : Text) : Bool :=
  text == word.toList || text == word.toUpper.toList || text == word.capitalize.toList

/-- The text without a sign at its start. -/
def unsigned : Text -> Text
  | '+' :: rest => rest
  | '-' :: rest => rest
  | rest => rest

/-- Whether a text starts with a digit and goes on with digits and low lines. -/
def isGroupedDigits : Text -> Bool
  | c :: rest => c.isDigit && rest.all fun d => d.isDigit || d = '_'
  | [] => false

/-- Whether a text is a part of a number to the base 60: one digit, or two with at most a five in
front. -/
def isSixtieth : Text -> Bool
  | [c] => c.isDigit
  | [c, d] => '0' <= c && c <= '5' && d.isDigit
  | _ => false

/-- Whether a text is a whole number. -/
def isWhole (text : Text) : Bool :=
  match unsigned text with
  | '0' :: 'b' :: digits => !digits.isEmpty && digits.all fun d => d = '0' || d = '1' || d = '_'
  | '0' :: 'x' :: digits =>
      !digits.isEmpty && digits.all fun d =>
        d.isDigit || ('a' <= d && d <= 'f') || ('A' <= d && d <= 'F') || d = '_'
  | '0' :: digits => digits.all fun d => ('0' <= d && d <= '7') || d = '_'
  | digits =>
      match Text.splitOn ':' digits with
      | first :: sixtieths => isGroupedDigits first && sixtieths.all isSixtieth
      | [] => false

/-- Whether a text is empty or an exponent with a sign. -/
def isExponent : Text -> Bool
  | [] => true
  | mark :: sign :: digits =>
      (mark = 'e' || mark = 'E') && (sign = '+' || sign = '-') && !digits.isEmpty &&
        digits.all Char.isDigit
  | _ => false

/-- Whether a text is a fraction behind a point, with or without an exponent. -/
def isFraction (text : Text) : Bool :=
  isExponent (text.dropWhile fun d => d.isDigit || d = '_')

/-- Whether a text is a number with a fraction. -/
def isDecimal (text : Text) : Bool :=
  let size := unsigned text
  match Text.cutAt? '.' size with
  | none => false
  | some (whole, fraction) =>
      if whole.isEmpty then
        (isCased "inf" fraction || (text == size && fraction ∈ ["nan".toList, "NaN".toList,
            "NAN".toList])) ||
          (text == size && fraction.head?.any Char.isDigit && isFraction fraction)
      else
        match Text.splitOn ':' whole with
        | first :: sixtieths =>
            isGroupedDigits first && sixtieths.all isSixtieth &&
              (if sixtieths.isEmpty then isFraction fraction
              else fraction.all fun d => d.isDigit || d = '_')
        | [] => false

/-- The type of a plain scalar; whether it is a date is decided elsewhere. -/
def ofPlain (isDate : Text -> Bool) (text : Text) : Kind :=
  if truthWords.any fun entry => isCased entry.1 text then bool
  else if isDecimal text then float
  else if isWhole text then int
  else if text == ['<', '<'] then merge
  else if text.isEmpty || text == ['~'] || isCased "null" text then null
  else if isDate text then timestamp
  else if text == ['='] then standIn
  else Kind.text

end Kind
end Document
end Switchboard
