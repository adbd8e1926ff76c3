import SdlWorkbench.Schema.Form
import SdlWorkbench.Schema.Edit
/-!
The structured form of edits: a record whose member `edit` names the edit.

A target is a record whose member `kind` says whether it is a type or a field.  Within an edit the kind
may also be given as a number; a target that stands alone needs the word.
-/

namespace SdlWorkbench

namespace EditTarget

def toData : EditTarget → Data
  | type typeId => .record [("kind".toList, .text "type".toList), ("type_id".toList, .text typeId.text)]
  | field typeId fieldId =>
      .record [("kind".toList, .text "field".toList), ("type_id".toList, .text typeId.text),
        ("field_id".toList, .text fieldId.text)]

/-- The word for the kind of a target that is part of an edit.  The two kinds may be numbered there. -/
def kindWord? : Data → Option Text
  | .integer 0 => some "type".toList
  | .integer 1 => some "field".toList
  | data => data.text?

def ofKindData? (word? : Data → Option Text) (data : Data) : Option EditTarget := do
  let (kind, rest) ← data.tagged? "kind".toList word?
  if kind = "type".toList then
    let record ← rest.record? ["type_id".toList] []
    return type (← record.id? .type "type_id".toList)
  else if kind = "field".toList then
    let record ← rest.record? ["type_id".toList, "field_id".toList] []
    return field (← record.id? .type "type_id".toList) (← record.id? .field "field_id".toList)
  else none

def ofData? : Data → Option EditTarget :=
  ofKindData? Data.text?

end EditTarget

def Record.target? (record : Record) (key : Text) : Option EditTarget :=
  (record.get? key).bind (EditTarget.ofKindData? EditTarget.kindWord?)

namespace Edit

def members : Edit → List (String × Data)
  | addType kind baseName => [("kind", .text kind.formName), ("base_name", .text baseName.text)]
  | renameType typeId newName => [("type_id", .text typeId.text), ("new_name", .text newName.text)]
  | deleteType typeId => [("type_id", .text typeId.text)]
  | addField typeId baseName =>
      [("type_id", .text typeId.text), ("base_name", .text baseName.text)]
  | renameField typeId fieldId newName =>
      [("type_id", .text typeId.text), ("field_id", .text fieldId.text),
        ("new_name", .text newName.text)]
  | deleteField typeId fieldId =>
      [("type_id", .text typeId.text), ("field_id", .text fieldId.text)]
  | moveField source fieldId target before =>
      [("source", .text source.text), ("field_id", .text fieldId.text),
        ("target", .text target.text)] ++
      (match before with
       | none => []
       | some before => [("before", .text before.text)])
  | setFieldType typeId fieldId typeName =>
      [("type_id", .text typeId.text), ("field_id", .text fieldId.text),
        ("type_name", .text typeName.text)]
  | setFieldList typeId fieldId isList =>
      [("type_id", .text typeId.text), ("field_id", .text fieldId.text),
        ("is_list", .boolean isList)]
  | setFieldRequired typeId fieldId isRequired =>
      [("type_id", .text typeId.text), ("field_id", .text fieldId.text),
        ("is_required", .boolean isRequired)]
  | setDescription target description =>
      [("target", target.toData), ("description", match description with
        | none => .null
        | some text => .text text)]
  | addEnumValue typeId baseValue =>
      [("type_id", .text typeId.text), ("base_value", .text baseValue.text)]
  | deleteEnumValue typeId value => [("type_id", .text typeId.text), ("value", .text value.text)]
  | setDirective target directive =>
      [("target", target.toData), ("name", .text directive.name.text),
        ("arguments", directive.arguments.toData)]
  | removeDirective target name => [("target", target.toData), ("name", .text name.text)]
  | setAccessScope target scope => [("target", target.toData), ("scope", .text scope)]

def toData (edit : Edit) : Data :=
  .record (("edit".toList, .text edit.label) ::
    edit.members.map fun member => (member.1.toList, member.2))

/-- The names of the members that the edit with the given label must have, and of those it may
have. -/
def memberNames (label : Text) : Option (List String × List String) :=
  [("add_type", ["kind", "base_name"], []),
    ("rename_type", ["type_id", "new_name"], []),
    ("delete_type", ["type_id"], []),
    ("add_field", ["type_id", "base_name"], []),
    ("rename_field", ["type_id", "field_id", "new_name"], []),
    ("delete_field", ["type_id", "field_id"], []),
    ("move_field", ["source", "field_id", "target"], ["before"]),
    ("set_field_type", ["type_id", "field_id", "type_name"], []),
    ("set_field_list", ["type_id", "field_id", "is_list"], []),
    ("set_field_required", ["type_id", "field_id", "is_required"], []),
    ("set_description", ["target", "description"], []),
    ("add_enum_value", ["type_id", "base_value"], []),
    ("delete_enum_value", ["type_id", "value"], []),
    ("set_directive", ["target", "name"], ["arguments"]),
    ("remove_directive", ["target", "name"], []),
    ("set_access_scope", ["target", "scope"], [])].lookup (String.ofList label)

def ofData? (data : Data) : Option Edit := do
  let (label, rest) ← data.tagged? "edit".toList Data.text?
  let (required, defaulted) ← memberNames label
  let record ← rest.record? (required.map String.toList) (defaulted.map String.toList)
  match String.ofList label with
  | "add_type" =>
      return addType (← (record.get? "kind".toList).bind TypeKind.ofNewData?)
        (← record.name? "base_name".toList)
  | "rename_type" =>
      return renameType (← record.id? .type "type_id".toList) (← record.name? "new_name".toList)
  | "delete_type" => return deleteType (← record.id? .type "type_id".toList)
  | "add_field" =>
      return addField (← record.id? .type "type_id".toList) (← record.name? "base_name".toList)
  | "rename_field" =>
      return renameField (← record.id? .type "type_id".toList)
        (← record.id? .field "field_id".toList) (← record.name? "new_name".toList)
  | "delete_field" =>
      return deleteField (← record.id? .type "type_id".toList)
        (← record.id? .field "field_id".toList)
  | "move_field" =>
      return moveField (← record.id? .type "source".toList) (← record.id? .field "field_id".toList)
        (← record.id? .type "target".toList)
        (← record.optional? "before".toList (Data.id? .field))
  | "set_field_type" =>
      return setFieldType (← record.id? .type "type_id".toList)
        (← record.id? .field "field_id".toList) (← record.name? "type_name".toList)
  | "set_field_list" =>
      return setFieldList (← record.id? .type "type_id".toList)
        (← record.id? .field "field_id".toList) (← record.boolean? "is_list".toList)
  | "set_field_required" =>
      return setFieldRequired (← record.id? .type "type_id".toList)
        (← record.id? .field "field_id".toList) (← record.boolean? "is_required".toList)
  | "set_description" =>
      return setDescription (← record.target? "target".toList) (← descriptionOfData? record)
  | "add_enum_value" =>
      return addEnumValue (← record.id? .type "type_id".toList)
        (← record.name? "base_value".toList)
  | "delete_enum_value" =>
      return deleteEnumValue (← record.id? .type "type_id".toList) (← record.name? "value".toList)
  | "set_directive" =>
      return setDirective (← record.target? "target".toList) {
        name := ← record.name? "name".toList,
        arguments := ← record.getOr? "arguments".toList Arguments.empty Arguments.ofData? }
  | "remove_directive" =>
      return removeDirective (← record.target? "target".toList) (← record.name? "name".toList)
  | "set_access_scope" =>
      return setAccessScope (← record.target? "target".toList) (← record.text? "scope".toList)
  | _ => none

end Edit

end SdlWorkbench
