import SdlWorkbench.Command.Discovery
import SdlWorkbench.Command.Report
/-!
The command that checks whether files can be read.

`Validation.ofFiles` looks at every file in turn and stops at one that cannot be opened, or that cannot
be printed when its canonical text is asked for.  What was found is written afterwards.
-/

namespace SdlWorkbench

inductive FileFinding where
  /-- The numbers of declarations and fields, and the canonical text if it was asked for. -/
  | valid (types fields : Nat) (printed : Option Text)
  | invalid (source : Text) (errors : List SyntaxError)
deriving DecidableEq

namespace FileFinding

def types : FileFinding → Nat
  | valid types _ _ => types
  | invalid .. => 0

def fields : FileFinding → Nat
  | valid _ fields _ => fields
  | invalid .. => 0

def errors : FileFinding → List SyntaxError
  | valid .. => []
  | invalid _ errors => errors

def isValid (finding : FileFinding) : Bool :=
  match finding with
  | valid .. => true
  | invalid .. => false

def ofText (indent : Nat) (print : Bool) (source : Text) : Except PrintError FileFinding :=
  match Document.ofText source with
  | .error errors => .ok (invalid source errors)
  | .ok document => do
      let printed ← if print then (document.print indent).map some else pure none
      return valid document.length document.fieldCount printed

end FileFinding

structure Validation where
  findings : List (Text × FileFinding)
  halted : Option CommandError
deriving DecidableEq

namespace Validation

def ofFiles (store : Store) (indent : Nat) (print : Bool) : List Text → Validation
  | [] => ⟨[], none⟩
  | file :: rest =>
      match store.read file with
      | .error fault => ⟨[], some (.fileFault file fault)⟩
      | .ok source =>
          match FileFinding.ofText indent print source with
          | .error error => ⟨[], some (.unprintable file error)⟩
          | .ok finding =>
              let others := ofFiles store indent print rest
              { others with findings := (file, finding) :: others.findings }

def types (validation : Validation) : Nat :=
  validation.findings.foldl (fun count entry => count + entry.2.types) 0

def errorCount (validation : Validation) : Nat :=
  (validation.findings.flatMap fun entry => entry.2.errors).length

def failedCount (validation : Validation) : Nat :=
  (validation.findings.filter fun entry => !entry.2.isValid).length

def error? (validation : Validation) : Option CommandError :=
  validation.halted.or
    (if validation.failedCount = 0 then none else some (.invalidFiles validation.failedCount))

def printedTexts (validation : Validation) : Text :=
  validation.findings.flatMap fun entry =>
    match entry.2 with
    | .valid _ _ (some text) => Text.asLine text
    | _ => []

def fileNotice (style : Style) (file : Text) : FileFinding → Text
  | .valid types fields _ => style.notice s!"  {file} .... {types} types, {fields} fields"
  | .invalid source errors => style.syntaxErrors file source errors

def fileData (file : Text) (finding : FileFinding) : Data :=
  .record [("errors".toList, .list (finding.errors.map (SyntaxError.toData file))),
    ("fields".toList, CommandError.numberData finding.fields),
    ("file".toList, .text file),
    ("types".toList, CommandError.numberData finding.types)]

def summary (validation : Validation) : String :=
  let tone := if validation.failedCount = 0 then "ok" else "warning:"
  s!"{tone} {validation.types} types parsed from {validation.findings.length} files, " ++
    s!"{validation.errorCount} errors"

def totals (style : Style) (print : Bool) (validation : Validation) : Text :=
  match style.format with
  | .human => []
  | .json => Style.document (.record [
      ("errors".toList, CommandError.numberData validation.errorCount),
      ("files".toList, CommandError.numberData validation.findings.length),
      ("results".toList, .list (validation.findings.map fun entry => fileData entry.1 entry.2)),
      ("types".toList, CommandError.numberData validation.types)])
  | .plain =>
      if print then []
      else s!"{validation.findings.length}\t{validation.types}\t{validation.errorCount}\n".toList

/-- Writes what was found.  Totals are written only when all files were looked at. -/
def report (style : Style) (print : Bool) (store : Store) (validation : Validation) : Report :=
  let notices := validation.findings.flatMap fun entry => fileNotice style entry.1 entry.2
  match validation.halted with
  | some error => style.report validation.printedTexts notices (some error) store
  | none =>
      style.report (validation.printedTexts ++ validation.totals style print)
        (notices ++ style.notice validation.summary) validation.error? store

end Validation

def validateFiles (style : Style) (settings : Settings) (paths : List Text) (print : Bool)
    (store : Store) : Report :=
  match store.schemaFiles settings paths with
  | .error error => style.report [] [] (some error) store
  | .ok files => (Validation.ofFiles store settings.indent print files).report style print store

end SdlWorkbench
