import SdlWorkbench.Command.Discovery
import SdlWorkbench.Command.Report
/-!
The command that brings files into canonical form.

`Verdict.ofText` says of one text whether it is in canonical form.  `Formatting.ofFiles` goes through
files in order and at once puts the canonical form into each file that has another, unless the command
only checks.  A file that can be read but not printed ends the command; a file with syntax errors is
left alone.
-/

namespace SdlWorkbench

inductive Verdict where
  | invalid (errors : List SyntaxError)
  | canonical
  /-- The text is not the given canonical form of it. -/
  | different (formatted : Text)
deriving DecidableEq

/-- The text of a file: a printed text with a line end, or nothing when nothing is printed. -/
def Text.asFile (printed : Text) : Text :=
  if printed.isEmpty then [] else Text.asLine printed

namespace Verdict

def ofText (indent : Nat) (source : Text) : Except PrintError Verdict :=
  match Document.ofText source with
  | .error errors => .ok (invalid errors)
  | .ok document =>
      match document.print indent with
      | .error error => .error error
      | .ok printed =>
          .ok (if Text.asFile printed = source then canonical else different (Text.asFile printed))

def errors : Verdict → List SyntaxError
  | invalid errors => errors
  | _ => []

def isInvalid : Verdict → Bool
  | invalid _ => true
  | _ => false

def isDifferent : Verdict → Bool
  | different _ => true
  | _ => false

def save (store : Store) (file : Text) : Verdict → Store
  | different formatted => store.write file formatted
  | _ => store

end Verdict

structure JudgedFile where
  file : Text
  source : Text
  verdict : Verdict
deriving DecidableEq

/-- The files that were judged, in order, why the others were not, and the store afterwards. -/
structure Formatting where
  judged : List JudgedFile
  halted : Option CommandError
  store : Store
deriving DecidableEq

namespace Formatting

def ofFiles (indent : Nat) (check : Bool) (store : Store) : List Text → Formatting
  | [] => ⟨[], none, store⟩
  | file :: rest =>
      match store.read file with
      | .error fault => ⟨[], some (.fileFault file fault), store⟩
      | .ok source =>
          match Verdict.ofText indent source with
          | .error error => ⟨[], some (.unprintable file error), store⟩
          | .ok verdict =>
              let after := if check then store else verdict.save store file
              let others := ofFiles indent check after rest
              { others with judged := ⟨file, source, verdict⟩ :: others.judged }

def changed (formatting : Formatting) : List Text :=
  (formatting.judged.filter fun entry => entry.verdict.isDifferent).map JudgedFile.file

def failedCount (formatting : Formatting) : Nat :=
  (formatting.judged.filter fun entry => entry.verdict.isInvalid).length

def error? (check : Bool) (formatting : Formatting) : Option CommandError :=
  formatting.halted.or
    (if formatting.failedCount ≠ 0 then some (.invalidFiles formatting.failedCount)
    else if check && !formatting.changed.isEmpty then
      some (.unformatted formatting.changed.length)
    else none)

def fileNotice (style : Style) (check : Bool) (entry : JudgedFile) : Text :=
  match entry.verdict with
  | .invalid errors => style.syntaxErrors entry.file entry.source errors
  | .canonical => []
  | .different _ =>
      if check then style.notice s!"  would reformat {entry.file}"
      else style.notice s!"  reformatted {entry.file}"

def summary (check : Bool) (formatting : Formatting) : String :=
  let activity := if check then "would be reformatted" else "reformatted"
  s!"ok {formatting.changed.length} of {formatting.judged.length} files {activity}"

def totals (style : Style) (check : Bool) (formatting : Formatting) : Text :=
  match style.format with
  | .human => []
  | .json => Style.document (.record [
      ("changed".toList, .list (formatting.changed.map .text)),
      ("check".toList, .boolean check),
      ("errors".toList, .list (formatting.judged.flatMap fun entry =>
        entry.verdict.errors.map (SyntaxError.toData entry.file))),
      ("failed".toList, CommandError.numberData formatting.failedCount),
      ("files".toList, CommandError.numberData formatting.judged.length)])
  | .plain => formatting.changed.flatMap Text.asLine

/-- Writes what was done.  Totals are written only when all files were judged. -/
def report (style : Style) (check : Bool) (formatting : Formatting) : Report :=
  let notices := formatting.judged.flatMap (fileNotice style check)
  match formatting.halted with
  | some error => style.report [] notices (some error) formatting.store
  | none =>
      style.report (formatting.totals style check)
        (notices ++ style.notice (formatting.summary check)) (formatting.error? check)
        formatting.store

end Formatting

/-- Brings the files that paths stand for into canonical form, or only says which are not. -/
def formatFiles (style : Style) (settings : Settings) (paths : List Text) (check : Bool)
    (store : Store) : Report :=
  match store.schemaFiles settings paths with
  | .error error => style.report [] [] (some error) store
  | .ok files => (Formatting.ofFiles settings.indent check store files).report style check

end SdlWorkbench
