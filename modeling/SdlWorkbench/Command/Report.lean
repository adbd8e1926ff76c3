import SdlWorkbench.Command.Error
/-!
What a command leaves behind: two texts, the store, and the error that ended it.

Results go to the first text.  Progress, summaries and errors go to the second, and only errors are
written to it when the run is quiet or when its results are not for human readers.
-/

namespace SdlWorkbench

structure Style where
  format : OutputFormat
  quiet : Bool
deriving DecidableEq

structure Report where
  results : Text := []
  notices : Text := []
  error : Option CommandError := none
  store : Store
deriving DecidableEq

def Report.exitCode (report : Report) : Nat :=
  match report.error with
  | none => 0
  | some error => error.exitCode

def Text.asLine (text : Text) : Text :=
  text ++ ['\n']

namespace Style

def notice (style : Style) (line : String) : Text :=
  if style.format = .human && !style.quiet then Text.asLine line.toList else []

/-- The syntax errors of a file.  Whoever reads JSON finds them in the document. -/
def syntaxErrors (style : Style) (file source : Text) (errors : List SyntaxError) : Text :=
  match style.format with
  | .human => errors.flatMap fun error => ((Diagnostic.ofError source error).render file).toList
  | .plain => errors.flatMap fun error => s!"{file}\terror\t{error.message}\n".toList
  | .json => []

def failure (style : Style) (error : CommandError) : Text :=
  let details := match error with
    | .unreadable file source errors => style.syntaxErrors file source errors
    | _ => []
  let line := match style.format with
    | .human => s!"error: {error.message}".toList
    | .json => error.toData.compactJson
    | .plain => s!"error\t{error.message}".toList
  details ++ Text.asLine line

def document (data : Data) : Text :=
  Text.asLine (data.prettyJson 0)

/-- The report of a run whose error, if there is one, is not yet written. -/
def report (style : Style) (results notices : Text) (error : Option CommandError)
    (store : Store) : Report :=
  { results
    notices := notices ++ (error.map style.failure).getD []
    error
    store }

end Style

def SyntaxError.toData (file : Text) (error : SyntaxError) : Data :=
  .record [("file".toList, .text file), ("message".toList, CommandError.textData error.message)]

end SdlWorkbench
