import SdlWorkbench.Script.Basic
import SdlWorkbench.Schema.Form
/-!
The structured form of edit scripts: a record whose list `edit` holds the steps, and a record for
each step whose member `op` names the operation.
-/

namespace SdlWorkbench

namespace ScriptStep

def memberNames (op : Text) : Option (List String) :=
  [("add_type", ["kind", "name"]),
    ("rename_type", ["type", "to"]),
    ("delete_type", ["type"]),
    ("add_field", ["type", "name"]),
    ("rename_field", ["type", "field", "to"]),
    ("delete_field", ["type", "field"]),
    ("move_field", ["type", "field", "to_type", "before"]),
    ("set_field_type", ["type", "field", "field_type"]),
    ("set_list", ["type", "field", "list"]),
    ("set_required", ["type", "field", "required"]),
    ("set_description", ["type", "field", "description"]),
    ("add_enum_value", ["type", "value"]),
    ("delete_enum_value", ["type", "value"]),
    ("set_directive", ["type", "field", "directive"]),
    ("remove_directive", ["type", "field", "name"]),
    ("set_scope", ["type", "field", "scope"])].lookup (String.ofList op)

def ofData? (data : Data) : Option ScriptStep := do
  let (op, rest) ← data.tagged? "op".toList Data.text?
  let record ← rest.record? ((← memberNames op).map String.toList) []
  let text (key : String) : Option Text := record.text? key.toList
  let optionalText (key : String) : Option (Option Text) :=
    record.optional? key.toList Data.text?
  match String.ofList op with
  | "add_type" =>
      return addType (← (record.get? "kind".toList).bind TypeKind.ofNewData?) (← text "name")
  | "rename_type" => return renameType (← text "type") (← text "to")
  | "delete_type" => return deleteType (← text "type")
  | "add_field" => return addField (← text "type") (← text "name")
  | "rename_field" => return renameField (← text "type") (← text "field") (← text "to")
  | "delete_field" => return deleteField (← text "type") (← text "field")
  | "move_field" =>
      return moveField (← text "type") (← text "field") (← text "to_type")
        (← optionalText "before")
  | "set_field_type" =>
      return setFieldType (← text "type") (← text "field") (← text "field_type")
  | "set_list" =>
      return setList (← text "type") (← text "field") (← record.boolean? "list".toList)
  | "set_required" =>
      return setRequired (← text "type") (← text "field") (← record.boolean? "required".toList)
  | "set_description" =>
      return setDescription (← text "type") (← optionalText "field")
        (← optionalText "description")
  | "add_enum_value" => return addEnumValue (← text "type") (← text "value")
  | "delete_enum_value" => return deleteEnumValue (← text "type") (← text "value")
  | "set_directive" =>
      return setDirective (← text "type") (← optionalText "field") (← text "directive")
  | "remove_directive" =>
      return removeDirective (← text "type") (← optionalText "field") (← text "name")
  | "set_scope" => return setScope (← text "type") (← optionalText "field") (← text "scope")
  | _ => none

/-- Reads the steps of a script.  A script without the list has no steps. -/
def listOfData? (data : Data) : Option (List ScriptStep) := do
  let record ← data.record? [] ["edit".toList]
  record.getOr? "edit".toList [] fun steps => do (← steps.list?).mapM ofData?

end ScriptStep

end SdlWorkbench
