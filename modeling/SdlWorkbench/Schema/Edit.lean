import SdlWorkbench.Schema.Error
/-!
Edits of a schema: what can be asked for, and what a request that was carried out gives back.
-/

namespace SdlWorkbench

inductive EditTarget where
  | type (typeId : TypeId)
  | field (typeId : TypeId) (fieldId : FieldId)
deriving DecidableEq

namespace EditTarget

/-- The type that is addressed, by itself or as the owner of a field. -/
def typeId : EditTarget → TypeId
  | type typeId => typeId
  | field typeId _ => typeId

end EditTarget

/-- One request.  Entities are addressed by id, and names stand only for what is written. -/
inductive Edit where
  | addType (kind : TypeKind) (baseName : Name)
  | renameType (typeId : TypeId) (newName : Name)
  | deleteType (typeId : TypeId)
  | addField (typeId : TypeId) (baseName : Name)
  | renameField (typeId : TypeId) (fieldId : FieldId) (newName : Name)
  | deleteField (typeId : TypeId) (fieldId : FieldId)
  /-- Moves a field in front of the field `before` of the target, or to its end. -/
  | moveField (source : TypeId) (fieldId : FieldId) (target : TypeId) (before : Option FieldId)
  | setFieldType (typeId : TypeId) (fieldId : FieldId) (typeName : Name)
  | setFieldList (typeId : TypeId) (fieldId : FieldId) (isList : Bool)
  | setFieldRequired (typeId : TypeId) (fieldId : FieldId) (isRequired : Bool)
  | setDescription (target : EditTarget) (description : Option Text)
  | addEnumValue (typeId : TypeId) (baseValue : Name)
  | deleteEnumValue (typeId : TypeId) (value : Name)
  | setDirective (target : EditTarget) (directive : Directive)
  | removeDirective (target : EditTarget) (name : Name)
  /-- Sets the access scope; a blank scope removes it. -/
  | setAccessScope (target : EditTarget) (scope : Text)
deriving DecidableEq

def Edit.label : Edit → Text
  | addType .. => "add_type".toList
  | renameType .. => "rename_type".toList
  | deleteType .. => "delete_type".toList
  | addField .. => "add_field".toList
  | renameField .. => "rename_field".toList
  | deleteField .. => "delete_field".toList
  | moveField .. => "move_field".toList
  | setFieldType .. => "set_field_type".toList
  | setFieldList .. => "set_field_list".toList
  | setFieldRequired .. => "set_field_required".toList
  | setDescription .. => "set_description".toList
  | addEnumValue .. => "add_enum_value".toList
  | deleteEnumValue .. => "delete_enum_value".toList
  | setDirective .. => "set_directive".toList
  | removeDirective .. => "remove_directive".toList
  | setAccessScope .. => "set_access_scope".toList

inductive EditOutcome where
  | typeAdded (id : TypeId) (name : Name)
  | fieldAdded (id : FieldId) (name : Name)
  /-- The name that the field has at its new place. -/
  | fieldMoved (id : FieldId) (name : Name)
  | enumValueAdded (value : Name)
  | typeDeleted (decl : TypeDecl)
  | fieldDeleted (field : FieldDecl)
  | updated
deriving DecidableEq

end SdlWorkbench
