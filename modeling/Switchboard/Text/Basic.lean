namespace Switchboard

/-!
Text as the list of its characters.

Everything this library decides about a message, a tag, a phrase or a name is decided character
by character, so the list is the working form; strings appear only where output is written.
-/

/-- A text is the list of its characters. -/
abbrev Text := List Char

namespace Text

/-- The text of a string. -/
def ofString (s : String) : Text := s.toList

/-- The string of a text. -/
def toStr (t : Text) : String := String.ofList t

/-- What follows a given beginning, when the text has that beginning. -/
def dropLeading? : Text -> Text -> Option Text
  | [], text => some text
  | _ :: _, [] => none
  | b :: beginning, c :: text => if b = c then dropLeading? beginning text else none

/-- Whether a text starts with a given beginning. -/
def startsWith (beginning text : Text) : Bool := (dropLeading? beginning text).isSome

/-- Whether a text holds another one as a contiguous part. -/
def includes (needle : Text) : Text -> Bool
  | [] => startsWith needle []
  | c :: text => startsWith needle (c :: text) || includes needle text

/-- The parts between the occurrences of a separator; there is always at least one. -/
def splitOn (separator : Char) : Text -> List Text
  | [] => [[]]
  | c :: text =>
      if c = separator then [] :: splitOn separator text
      else match splitOn separator text with
        | [] => [[c]]
        | part :: parts => (c :: part) :: parts

/-- The parts written one after another with a separator between neighbours. -/
def joinWith (separator : Text) : List Text -> Text
  | [] => []
  | [part] => part
  | part :: parts => part ++ separator ++ joinWith separator parts

/-- The text up to the first occurrence of a character and the text after it, if it occurs. -/
def cutAt? (separator : Char) : Text -> Option (Text × Text)
  | [] => none
  | c :: text =>
      if c = separator then some ([], text)
      else (cutAt? separator text).map fun parts => (c :: parts.1, parts.2)

end Text
end Switchboard
