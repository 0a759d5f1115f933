import FortranBindings.CommandLine.Run

/-!
# The program

The command line with the files, the arguments and the output streams of the machine.
-/

namespace FortranBindings.CommandLine

/-- Try to do something with a file. -/
def attempt {α : Type} (action : IO α) (onFailure : α) : IO α :=
  try action catch _ => return onFailure

/-- The files of the machine. -/
def machineFiles : FileAccess IO where
  read path := attempt (some <$> IO.FS.readFile path) none
  write path text := attempt (do IO.FS.writeFile path text; return true) false
  makeDirectory path :=
    try
      IO.FS.createDir path
      return .made
    catch
      | .noFileOrDirectory .. => return .missing
      | _ => return .refused
  isDirectory path := attempt (do (← IO.FS.realPath path).isDir) false

end FortranBindings.CommandLine

/-- Run the command in the arguments. -/
def main (arguments : List String) : IO UInt32 := do
  let outcome ← FortranBindings.CommandLine.run FortranBindings.CommandLine.machineFiles arguments
  IO.print outcome.output
  IO.eprint outcome.errors
  return outcome.code.toUInt32
