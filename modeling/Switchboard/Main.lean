import Switchboard.Command.Run

/-!
The program: it finds out about its surroundings, runs the command and writes what it says.
-/

namespace Switchboard
namespace Program

/-- The value of a variable of the environment. -/
def variableText (name : String) : IO (Option Text) := do
  pure ((← IO.getEnv name).map Text.ofString)

/-- What is found at a path. -/
def stateAt (path : Path) : IO FileState := do
  let name := path.text.toStr
  try
    let content ← IO.FS.readBinFile name
    pure (.file 0 content.toList)
  catch
    | .noFileOrDirectory _ _ _ => pure .absent
    | .inappropriateType _ _ _ => pure (.directory 0)
    | .permissionDenied _ _ _ => pure (.locked 0)
    | _ => pure .absent

/-- The surroundings of the program for a command. -/
def surroundings (arguments : List Text) : IO Surroundings := do
  let home ← variableText "HOME"
  let preset ← variableText "CLAWROUTE_CONFIG"
  let directory := (← IO.currentDir).toString
  let around : Surroundings :=
    { home := Path.ofText (home.getD ['/'])
      directory := Path.ofText (Text.ofString directory)
      preset
      files := fun _ => .absent }
  match Command.settingsPath? around arguments with
  | none => pure around
  | some path =>
      let place := path.absolute around.directory
      let state ← stateAt place
      pure { around with files := fun p => if p = place then state else .absent }

/-- The end of the program: what was written, and its code or the fault that ended it. -/
def finish (ended : CommandEnd) : IO UInt32 := do
  for line in ended.output do
    IO.println line
  match ended.code with
  | .ok code => pure (UInt32.ofNat code)
  | .error fault =>
      IO.eprintln fault.message
      pure 1

end Program
end Switchboard

/-- Runs the command that the arguments give. -/
def main (arguments : List String) : IO UInt32 := do
  let arguments := arguments.map Switchboard.Text.ofString
  let around ← Switchboard.Program.surroundings arguments
  Switchboard.Program.finish (Switchboard.Command.run around none arguments)
