import SdlWorkbench.Toml.Reader
/-!
The settings of the command line, and their form in a TOML document.
-/

namespace SdlWorkbench

structure Settings where
  indent : Nat := 2
  /-- The directory that is searched when no path is given. -/
  schemaDirectory : Text := "schema/".toList
  /-- The extensions of the files that are found in a directory. -/
  extensions : List Text := ["graphql".toList, "gql".toList]
  /-- What is logged when nothing else says so. -/
  logLevel : Text := "warn".toList
deriving DecidableEq

namespace Settings

/-- Reads a section with the given members.  As a list it gives them in this order; what comes after
the last of them is ignored. -/
def section? (keys : List Text) : Data → Option Record
  | .record members => some ⟨members⟩
  | .list items => some ⟨keys.zip items⟩
  | _ => none

/-- Reads a member of one section of the settings.  A section that is missing has no members. -/
def member? {α : Type} (settings : Record) (sectionName : String) (keys : List String)
    (key : String) (default : α) (read : Data → Option α) : Option α := do
  let part ← settings.getOr? sectionName.toList ⟨[]⟩ (section? (keys.map String.toList))
  part.getOr? key.toList default read

def natural? : Data → Option Nat
  | .integer value => if 0 ≤ value then some value.toNat else none
  | _ => none

/-- Reads settings.  What is missing has its default, and what is not known is ignored. -/
def ofData? (data : Data) : Option Settings := do
  let settings ← section? ["printer".toList, "cli".toList, "logging".toList] data
  let defaults : Settings := {}
  let indent ← member? settings "printer" ["indent"] "indent" defaults.indent natural?
  let cliKeys := ["default_schema_dir", "extensions"]
  let schemaDirectory ←
    member? settings "cli" cliKeys "default_schema_dir" defaults.schemaDirectory Data.text?
  let extensions ←
    member? settings "cli" cliKeys "extensions" defaults.extensions fun data => do
      (← data.list?).mapM Data.text?
  let logLevel ← member? settings "logging" ["level"] "level" defaults.logLevel Data.text?
  return { indent, schemaDirectory, extensions, logLevel }

def ofText? (text : Text) : Option Settings :=
  (Toml.read? text).bind ofData?

end Settings

end SdlWorkbench
