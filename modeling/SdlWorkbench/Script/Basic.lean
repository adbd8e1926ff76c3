import SdlWorkbench.Editor
import SdlWorkbench.Directive.Codec
/-!
Edit scripts: steps that address types and fields by name.

A step is resolved against the schema as the steps before it have left it: every name becomes the id of
the first type, or the first field of that type, that carries it.
-/

namespace SdlWorkbench

inductive ScriptStep where
  | addType (kind : TypeKind) (name : Text)
  | renameType (type newName : Text)
  | deleteType (type : Text)
  | addField (type name : Text)
  | renameField (type field newName : Text)
  | deleteField (type field : Text)
  | moveField (type field toType : Text) (before : Option Text)
  | setFieldType (type field fieldType : Text)
  | setList (type field : Text) (list : Bool)
  | setRequired (type field : Text) (required : Bool)
  | setDescription (type : Text) (field description : Option Text)
  | addEnumValue (type value : Text)
  | deleteEnumValue (type value : Text)
  | setDirective (type : Text) (field : Option Text) (directive : Text)
  | removeDirective (type : Text) (field : Option Text) (name : Text)
  | setScope (type : Text) (field : Option Text) (scope : Text)
deriving DecidableEq

namespace Schema

def resolveType (schema : Schema) (name : Text) : Except SchemaError TypeDecl :=
  match schema.typeNamed? name with
  | some decl => .ok decl
  | none => .error (.unknownType name)

def resolveField (schema : Schema) (type field : Text) :
    Except SchemaError (TypeDecl × FieldDecl) := do
  let decl ← schema.resolveType type
  match decl.fieldNamed? field with
  | some found => .ok (decl, found)
  | none => .error (.unknownField type field)

def resolveTarget (schema : Schema) (type : Text) (field : Option Text) :
    Except SchemaError EditTarget :=
  match field with
  | none => do return .type (← schema.resolveType type).id
  | some field => do
      let (decl, found) ← schema.resolveField type field
      return .field decl.id found.id

end Schema

namespace ScriptStep

def op : ScriptStep → Text
  | addType .. => "add_type".toList
  | renameType .. => "rename_type".toList
  | deleteType .. => "delete_type".toList
  | addField .. => "add_field".toList
  | renameField .. => "rename_field".toList
  | deleteField .. => "delete_field".toList
  | moveField .. => "move_field".toList
  | setFieldType .. => "set_field_type".toList
  | setList .. => "set_list".toList
  | setRequired .. => "set_required".toList
  | setDescription .. => "set_description".toList
  | addEnumValue .. => "add_enum_value".toList
  | deleteEnumValue .. => "delete_enum_value".toList
  | setDirective .. => "set_directive".toList
  | removeDirective .. => "remove_directive".toList
  | setScope .. => "set_scope".toList

def refusing {α : Type} (result : Except SchemaError α) : Except EditorError α :=
  result.mapError EditorError.refused

/-- Turns the names of a step into ids.  The text of a directive is read before the names are looked
up. -/
def resolve (schema : Schema) : ScriptStep → Except EditorError Edit
  | addType kind name => refusing do return .addType kind (← Name.read name)
  | renameType type newName => refusing do
      let decl ← schema.resolveType type
      return .renameType decl.id (← Name.read newName)
  | deleteType type => refusing do return .deleteType (← schema.resolveType type).id
  | addField type name => refusing do
      let decl ← schema.resolveType type
      return .addField decl.id (← Name.read name)
  | renameField type field newName => refusing do
      let (decl, found) ← schema.resolveField type field
      return .renameField decl.id found.id (← Name.read newName)
  | deleteField type field => refusing do
      let (decl, found) ← schema.resolveField type field
      return .deleteField decl.id found.id
  | moveField type field toType before => refusing do
      let (decl, found) ← schema.resolveField type field
      let beforeId ← match before with
        | none => pure none
        | some before => do
            let (_, found) ← schema.resolveField toType before
            pure (some found.id)
      return .moveField decl.id found.id (← schema.resolveType toType).id beforeId
  | setFieldType type field fieldType => refusing do
      let (decl, found) ← schema.resolveField type field
      return .setFieldType decl.id found.id (← Name.read fieldType)
  | setList type field list => refusing do
      let (decl, found) ← schema.resolveField type field
      return .setFieldList decl.id found.id list
  | setRequired type field required => refusing do
      let (decl, found) ← schema.resolveField type field
      return .setFieldRequired decl.id found.id required
  | setDescription type field description => refusing do
      return .setDescription (← schema.resolveTarget type field) description
  | addEnumValue type value => refusing do
      let decl ← schema.resolveType type
      return .addEnumValue decl.id (← Name.read value)
  | deleteEnumValue type value => refusing do
      let decl ← schema.resolveType type
      return .deleteEnumValue decl.id (← Name.read value)
  | setDirective type field directive =>
      match Directive.decode directive with
      | .error errors => .error (.unreadable errors)
      | .ok directive => refusing do
          return .setDirective (← schema.resolveTarget type field) directive
  | removeDirective type field name => refusing do
      let target ← schema.resolveTarget type field
      return .removeDirective target (← Name.read (name.dropWhile (· = '@')))
  | setScope type field scope => refusing do
      return .setAccessScope (← schema.resolveTarget type field) scope

end ScriptStep

end SdlWorkbench
