import SdlWorkbench.Command.Line
import SdlWorkbench.Data.Json
import SdlWorkbench.Diagnostic
import SdlWorkbench.Editor
import SdlWorkbench.Files.Search
/-!
The errors that end a command, with their exit codes and messages.
-/

namespace SdlWorkbench

inductive CommandError where
  | unreadable (file source : Text) (errors : List SyntaxError)
  | invalidFiles (count : Nat)
  | unprintable (file : Text) (error : PrintError)
  | badScript (file : Text)
  /-- A step of a script fails; steps are counted from one. -/
  | stepFailed (step : Nat) (op : Text) (error : EditorError)
  | unformatted (count : Nat)
  | fileFault (path : Text) (fault : FileFault)
  | badSettings (path : Text)
  | noFiles (path : Text)
  | noType (name : Text)
  | searchFailed (error : SearchError)
deriving DecidableEq

namespace CommandError

def exitCode : CommandError → Nat
  | unreadable .. => 3
  | invalidFiles _ => 3
  | stepFailed .. => 4
  | badSettings _ => 2
  | badScript _ => 2
  | noFiles _ => 2
  | unprintable .. => 1
  | unformatted _ => 1
  | fileFault .. => 1
  | noType _ => 1
  | searchFailed _ => 1

def message : CommandError → String
  | unreadable file _ _ => s!"parse errors in {file}"
  | invalidFiles count => s!"{count} file(s) failed to parse"
  | unprintable file error => s!"cannot print {file}: {error.message}"
  | badScript file => s!"invalid edit script {file}: not a list of edit steps"
  | stepFailed step op error => s!"edit step {step} ({op}) failed: {error.message}"
  | unformatted count => s!"{count} file(s) would be reformatted"
  | fileFault path fault => s!"IO error for {path}: {fault.message}"
  | badSettings path => s!"configuration error: failed to parse {path}: not a table of settings"
  | noFiles path => s!"no SDL files found in {path}"
  | noType name => s!"type '{name}' not found"
  | searchFailed error => error.message

def textData (text : String) : Data :=
  .text text.toList

def numberData (number : Nat) : Data :=
  .integer number

def syntaxErrorData (error : SyntaxError) : Data :=
  let place := match error.span? with
    | none => .null
    | some span => .list [numberData span.start, numberData span.stop]
  .record [("message".toList, textData error.message), ("span".toList, place)]

def toData : CommandError → Data
  | unreadable file _ errors =>
      .record [("error".toList, textData "parse_error"),
        ("errors".toList, .list (errors.map syntaxErrorData)), ("file".toList, .text file)]
  | stepFailed step op error =>
      .record [("error".toList, textData "edit_error"), ("kind".toList, textData error.kind),
        ("message".toList, textData error.message), ("op".toList, .text op),
        ("step".toList, numberData step)]
  | fileFault path fault =>
      .record [("error".toList, textData "io_error"), ("message".toList, textData fault.message),
        ("path".toList, .text path)]
  | badSettings path =>
      .record [("error".toList, textData "config_error"),
        ("message".toList, textData s!"failed to parse {path}: not a table of settings")]
  | error =>
      .record [("error".toList, textData "error"), ("message".toList, textData error.message)]

end CommandError

end SdlWorkbench
