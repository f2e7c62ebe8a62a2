import Switchboard.Text.Basic

namespace Switchboard

/-!
The arguments behind the command that classifies a message.

The path of the settings is given by an option, which may stand anywhere and of which the last one
counts.  Its value is the next argument, whatever that is, or what follows an equals sign.  All
other arguments are the words of the message.
-/

/-- The path of the settings, if it is given, and the message. -/
structure ClassifyRequest where
  path : Option Text
  message : Text
deriving Repr, DecidableEq

/-- What is wrong with arguments: the option at the end has no value. -/
inductive ArgumentFault where
  | pathMissing
deriving Repr, DecidableEq

/-- The wording of a fault. -/
def ArgumentFault.message : ArgumentFault -> String
  | pathMissing => "--config requires a path"

namespace ClassifyRequest

/-- The option for the path of the settings. -/
def pathOption : Text := Text.ofString "--config"

/-- The path that an argument gives by itself. -/
def inlinePath? (argument : Text) : Option Text :=
  Text.dropLeading? (pathOption ++ ['=']) argument

/-- The last path and the words of arguments, given the last path in front of them. -/
def read (path : Option Text) : List Text -> Except ArgumentFault (Option Text × List Text)
  | [] => .ok (path, [])
  | [argument] =>
      if argument = pathOption then .error .pathMissing
      else
        match inlinePath? argument with
        | some inlined => .ok (some inlined, [])
        | none => .ok (path, [argument])
  | argument :: next :: rest =>
      if argument = pathOption then read (some next) rest
      else
        match inlinePath? argument with
        | some inlined => read (some inlined) (next :: rest)
        | none =>
            match read path (next :: rest) with
            | .error fault => .error fault
            | .ok (path, words) => .ok (path, argument :: words)

/-- The request that arguments make. -/
def ofArguments (arguments : List Text) : Except ArgumentFault ClassifyRequest :=
  match read none arguments with
  | .error fault => .error fault
  | .ok (path, words) => .ok ⟨path, Text.joinWith [' '] words⟩

end ClassifyRequest
end Switchboard
