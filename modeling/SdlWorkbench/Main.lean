import SdlWorkbench.Command.Run
/-!
The program.

It reads the files that its arguments and settings name into a `Store`, carries out the command on that
store, and writes back the files that the command changed.  Directories are not listed: when a command
searches for files, the paths of the files it may find are read from standard input, one on each line.
-/

namespace SdlWorkbench

def loadFile (store : Store) (path : Text) : IO Store := do
  if store.isFile path then return store
  try
    let bytes ← IO.FS.readBinFile (String.ofList path)
    let content := match String.fromUTF8? bytes with
      | some text => FileContent.text text.toList
      | none => FileContent.binary bytes.toList
    return { store with files := store.files ++ [(Store.locationOf path, content)] }
  catch error =>
    match error with
    | .inappropriateType .. =>
        let directory := Store.locationOf path
        return { store with emptyDirectories := store.emptyDirectories ++ [directory] }
    | _ => return store

def inputLines : IO (List Text) := do
  return Text.lines (← (← IO.getStdin).readToEnd).toList

/-- Writes the files of a store that another store does not hold in the same way. -/
def writeChanges (before after : Store) : IO Unit :=
  for (location, content) in after.files do
    if before.fileAt? location ≠ some content then
      match content with
      | .text text => IO.FS.writeFile (String.ofList (Store.pathOf location)) (String.ofList text)
      | .binary _ => pure ()

def randomSupply : IO IdSupply := do
  let bytes ← IO.getRandomBytes 16
  return ⟨bytes.foldl (fun number byte => number * 256 + byte.toNat) 0⟩

def runProgram (arguments : List String) : IO UInt32 := do
  let lookUp (name : String) : IO (Option Text) := do
    return (← IO.getEnv name).map String.toList
  let environment : Environment :=
    { config := ← lookUp "SDL_FORGE_CONFIG"
      configHome := ← lookUp "XDG_CONFIG_HOME"
      home := ← lookUp "HOME"
      noColor := ← lookUp "NO_COLOR" }
  match Invocation.ofArguments environment (arguments.map String.toList) with
  | .error .information =>
      IO.print (String.ofList usageText)
      return 0
  | .error stop =>
      IO.eprint (String.ofList usageText)
      return stop.exitCode.toUInt32
  | .ok invocation =>
      let named ← (invocation.paths environment).foldlM loadFile { files := [] }
      let paths ← if invocation.command.searches named then inputLines else pure []
      let store ← paths.foldlM loadFile named
      let report := invocation.run environment (← randomSupply) store
      writeChanges store report.store
      IO.print (String.ofList report.results)
      IO.eprint (String.ofList report.notices)
      return report.exitCode.toUInt32

end SdlWorkbench

def main (arguments : List String) : IO UInt32 :=
  SdlWorkbench.runProgram arguments
