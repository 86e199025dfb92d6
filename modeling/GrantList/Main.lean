import GrantList.CommandLine

/-!
# The program

Runs a command on the files of the system and prints what it says.
-/

namespace GrantList

/-- Reads a file of the system as text. -/
def readSystemFile (path : String) : IO (Except FileError String) := do
  if '\x00' ∈ path.toList then return .error .badName
  try
    return FileError.decode (← IO.FS.readBinFile path)
  catch e =>
    match e with
    | .noFileOrDirectory .. => return .error .notFound
    | .inappropriateType _ code _ =>
      return .error (if code == 21 then .isDirectory else .notADirectory)
    | e => return .error (.other (toString e))

end GrantList

/-- Runs the command line. -/
def main (args : List String) : IO UInt32 := do
  let catalog ← IO.getEnv "AUTOPROF_CATALOG"
  let output ← GrantList.CommandLine.run GrantList.readSystemFile catalog args
  (← IO.getStdout).putStr (GrantList.CommandLine.Output.text output.out)
  (← IO.getStderr).putStr (GrantList.CommandLine.Output.text output.err)
  return output.exitCode.toUInt32
