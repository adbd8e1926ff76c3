import SdlWorkbench.Document.Printer
import SdlWorkbench.Schema.Apply
/-!
Editing sessions.

An `Editor` holds a schema, its canonical text and the changes it has announced.  Every call that
succeeds announces the new schema with its text, and a call that fails leaves all three as they were;
a schema that cannot be printed makes a call fail.  Ids that were drawn by a failed call are not given
out again.
-/

namespace SdlWorkbench

inductive EditorError where
  | unreadable (errors : List SyntaxError)
  | refused (error : SchemaError)
  | unprintable (error : PrintError)
deriving DecidableEq

namespace EditorError

def kind : EditorError → String
  | unreadable _ => "syntax"
  | unprintable _ => "generation"
  | refused (.nameConflict ..) => "name_conflict"
  | refused (.invalidName ..) => "invalid_name"
  | refused (.kindMismatch ..) => "kind_mismatch"
  | refused _ => "not_found"

def message : EditorError → String
  | unreadable [] => "0 syntax error(s)"
  | unreadable (first :: rest) =>
      s!"{rest.length + 1} syntax error(s); first: {first.message}"
  | refused error => error.message
  | unprintable error => error.message

end EditorError

/-- A schema with its text, as it was announced after a call. -/
structure Change where
  schema : Schema
  sdl : Text
deriving DecidableEq

structure Editor where
  indent : Nat
  schema : Schema
  sdl : Text
  /-- The announced changes, oldest first. -/
  changes : List Change
  supply : IdSupply

namespace Schema

/-- Carries out edits one after the other and stops at the first that is refused.  Every edit draws
from the supply, whether it is refused or not. -/
def applyAll (supply : IdSupply) (schema : Schema) :
    List Edit → Except SchemaError (List EditOutcome × Schema) × IdSupply
  | [] => (.ok ([], schema), supply)
  | edit :: rest =>
      match schema.apply supply.fresh edit with
      | .error error => (.error error, supply.advance)
      | .ok (outcome, after) =>
          match applyAll supply.advance after rest with
          | (.ok (outcomes, last), supply') => (.ok (outcome :: outcomes, last), supply')
          | (.error error, supply') => (.error error, supply')

end Schema

namespace Editor

def new (supply : IdSupply) (indent : Nat := 2) : Editor :=
  { indent, schema := {}, sdl := [], changes := [], supply }

/-- A session that starts from a schema.  Nothing is announced. -/
def ofSchema (supply : IdSupply) (indent : Nat) (schema : Schema) : Except PrintError Editor :=
  match schema.print indent with
  | .error error => .error error
  | .ok sdl => .ok { indent, schema, sdl, changes := [], supply }

def ofText (supply : IdSupply) (indent : Nat) (text : Text) : Except EditorError Editor :=
  match Schema.ofText supply text with
  | .error errors => .error (.unreadable errors)
  | .ok (schema, supply) => (ofSchema supply indent schema).mapError .unprintable

/-- Takes over a new schema and announces it, unless it cannot be printed. -/
def commit (editor : Editor) (schema : Schema) : Except EditorError Editor :=
  match schema.print editor.indent with
  | .error error => .error (.unprintable error)
  | .ok sdl => .ok { editor with schema, sdl, changes := editor.changes ++ [⟨schema, sdl⟩] }

def importText (editor : Editor) (text : Text) : Except EditorError Unit × Editor :=
  match Schema.ofText editor.supply text with
  | .error errors => (.error (.unreadable errors), editor)
  | .ok (schema, supply) =>
      match editor.commit schema with
      | .error error => (.error error, { editor with supply })
      | .ok after => (.ok (), { after with supply })

/-- Carries out edits together: all of them, or none when one is refused or the result cannot be
printed. -/
def batch (editor : Editor) (edits : List Edit) :
    Except EditorError (List EditOutcome) × Editor :=
  match editor.schema.applyAll editor.supply edits with
  | (.error error, supply) => (.error (.refused error), { editor with supply })
  | (.ok (outcomes, schema), supply) =>
      match editor.commit schema with
      | .error error => (.error error, { editor with supply })
      | .ok after => (.ok outcomes, { after with supply })

def apply (editor : Editor) (edit : Edit) : Except EditorError EditOutcome × Editor :=
  let supply := editor.supply.advance
  match editor.schema.apply editor.supply.fresh edit with
  | .error error => (.error (.refused error), { editor with supply })
  | .ok (outcome, schema) =>
      match editor.commit schema with
      | .error error => (.error error, { editor with supply })
      | .ok after => (.ok outcome, { after with supply })

end Editor

end SdlWorkbench
