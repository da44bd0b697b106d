import Gutter.CommandLine.Run

/-! The program: what surrounds it is read, the arguments are obeyed, and the output is written. -/

namespace Gutter.CommandLine

/-- What stands at a path of the system, if anything does. -/
def nodeAt? (path : String) : IO (Option Node) := do
  try
    let bytes ← IO.FS.readBinFile path
    return some (.file bytes.toList false)
  catch
    | .noFileOrDirectory .. => return none
    | .inappropriateType .. => return some .directory
    | _ => return some .sealedFile

/-- The variables of the system with these names. -/
def readVariables (names : List String) : IO Environment := do
  let found ← names.mapM fun name => return (← IO.getEnv name).map fun text => (name, text)
  return ⟨found.filterMap id⟩

/-- What surrounds the program, as far as the arguments can need it. -/
def readWorld (arguments : List String) : IO World := do
  let place := (← IO.getEnv "PWD").getD "/"
  let mut files := World.start place
  let mut names := World.commonVariables
  for path in World.paths arguments do
    if let some node ← nodeAt? path then
      files := World.put files path node
      if let .file bytes _ := node then names := names ++ World.variableNames bytes
  if let some node ← nodeAt? Files.usersPath then files := World.put files Files.usersPath node
  return ⟨files, ← readVariables names.eraseDups, files.homes⟩

/-- Obeys the arguments, and gives the status of the program. -/
def serve (arguments : List String) : IO UInt32 := do
  match run (← readWorld arguments) arguments with
  | .helps =>
    IO.print helpText
    return 0
  | .refuses e =>
    IO.eprintln e.message
    return usageStatus.toUInt32
  | .runs result =>
    IO.print result.output
    return result.status.toUInt32

end Gutter.CommandLine

def main (arguments : List String) : IO UInt32 := Gutter.CommandLine.serve arguments
