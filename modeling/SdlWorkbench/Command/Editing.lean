import SdlWorkbench.Command.Discovery
import SdlWorkbench.Command.Formatting
import SdlWorkbench.Script.Form
/-!
The command that carries out an edit script.

`Editor.runSteps` carries out the steps one after the other, each resolved against the schema that the
steps before it have left, and stops at the first that fails.  A file is written only when all steps
succeed.
-/

namespace SdlWorkbench

namespace Editor

def runStep (editor : Editor) (step : ScriptStep) : Except EditorError Editor :=
  match step.resolve editor.schema with
  | .error error => .error error
  | .ok edit =>
      match editor.apply edit with
      | (.error error, _) => .error error
      | (.ok _, after) => .ok after

/-- Carries out steps that are counted from `number` on. -/
def runSteps (number : Nat) (editor : Editor) : List ScriptStep → Except CommandError Editor
  | [] => .ok editor
  | step :: rest =>
      match editor.runStep step with
      | .error error => .error (.stepFailed number step.op error)
      | .ok after => runSteps (number + 1) after rest

end Editor

namespace Store

def script (store : Store) (path : Text) : Except CommandError (List ScriptStep) := do
  match (Toml.read? (← store.source path)).bind ScriptStep.listOfData? with
  | some steps => return steps
  | none => throw (.badScript path)

end Store

def openEditor (supply : IdSupply) (indent : Nat) (file source : Text) :
    Except CommandError Editor :=
  match Schema.ofText supply source with
  | .error errors => .error (.unreadable file source errors)
  | .ok (schema, supply) => (Editor.ofSchema supply indent schema).mapError (.unprintable file)

def editedSession (supply : IdSupply) (indent : Nat) (file script : Text) (store : Store) :
    Except CommandError Editor := do
  let source ← store.source file
  let steps ← store.script script
  let editor ← openEditor supply indent file source
  editor.runSteps 1 steps

def editResults (style : Style) (file : Text) (write : Bool) (editor : Editor) : Text :=
  if style.format = .json then
    Style.document (.record [("edits".toList, CommandError.numberData editor.changes.length),
      ("file".toList, .text file), ("sdl".toList, .text editor.sdl),
      ("written".toList, .boolean write)])
  else if write then [] else editor.sdl.asFile

/-- Carries out a script on a file.  The new text is written to the file or else shown. -/
def editFile (style : Style) (settings : Settings) (supply : IdSupply) (file script : Text)
    (write : Bool) (store : Store) : Report :=
  match editedSession supply settings.indent file script store with
  | .error error => style.report [] [] (some error) store
  | .ok editor =>
      style.report (editResults style file write editor)
        (style.notice s!"ok applied {editor.changes.length} edits to {file}") none
        (if write then store.write file editor.sdl.asFile else store)

end SdlWorkbench
