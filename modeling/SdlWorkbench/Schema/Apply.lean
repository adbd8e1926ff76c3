import SdlWorkbench.Schema.Edit
/-!
Carrying out edits.

Every operation first looks up and checks all that it needs and then writes, so a refused edit leaves
no trace.  The checks come in a fixed order: argument keys of a directive, then the type (the source
of a move before its target), then its kind, then the field, then the kind of a move's target, then
names and values.  Writing replaces the first declaration, or the first field, that has the given id.
-/

namespace SdlWorkbench

def updateFirst {α : Type} (p : α → Bool) (f : α → α) : List α → List α
  | [] => []
  | a :: rest => if p a then f a :: rest else a :: updateFirst p f rest

/-- Puts an element in front of the first one that satisfies `p`, or at the end if none does. -/
def insertBefore {α : Type} (p : α → Bool) (new : α) : List α → List α
  | [] => [new]
  | a :: rest => if p a then new :: a :: rest else a :: insertBefore p new rest

namespace Body

def mapFields (f : List FieldDecl → List FieldDecl) : Body FieldDecl → Body FieldDecl
  | object fields => object (f fields)
  | enumeration values => enumeration values

def mapValues (f : List Name → List Name) : Body FieldDecl → Body FieldDecl
  | object fields => object fields
  | enumeration values => enumeration (f values)

end Body

namespace TypeDecl

def requireFields (decl : TypeDecl) : Except SchemaError (List FieldDecl) :=
  match decl.body with
  | .object fields => .ok fields
  | .enumeration _ => .error (.kindMismatch decl.name .object)

def requireValues (decl : TypeDecl) : Except SchemaError (List Name) :=
  match decl.body with
  | .object _ => .error (.kindMismatch decl.name .enumeration)
  | .enumeration values => .ok values

def requireField (decl : TypeDecl) (id : FieldId) : Except SchemaError FieldDecl := do
  let fields ← decl.requireFields
  match fields.find? fun field => field.id = id with
  | some field => .ok field
  | none => .error (.unknownField decl.name.text id.text)

def mapFields (f : List FieldDecl → List FieldDecl) (decl : TypeDecl) : TypeDecl :=
  { decl with body := decl.body.mapFields f }

def mapValues (f : List Name → List Name) (decl : TypeDecl) : TypeDecl :=
  { decl with body := decl.body.mapValues f }

def updateField (id : FieldId) (f : FieldDecl → FieldDecl) (decl : TypeDecl) : TypeDecl :=
  decl.mapFields (updateFirst (fun field => field.id = id) f)

def removeField (id : FieldId) (decl : TypeDecl) : TypeDecl :=
  decl.mapFields (List.eraseP fun field => field.id = id)

end TypeDecl

namespace Schema

def requireType (schema : Schema) (id : TypeId) : Except SchemaError TypeDecl :=
  match schema.type? id with
  | some decl => .ok decl
  | none => .error (.unknownType id.text)

def updateType (id : TypeId) (f : TypeDecl → TypeDecl) (schema : Schema) : Schema :=
  ⟨updateFirst (fun decl => decl.id = id) f schema.types⟩

def changeField (schema : Schema) (typeId : TypeId) (fieldId : FieldId)
    (f : FieldDecl → FieldDecl) : Except SchemaError Schema := do
  let decl ← schema.requireType typeId
  let _ ← decl.requireField fieldId
  return schema.updateType typeId (TypeDecl.updateField fieldId f)

def placeholderValues : List Name :=
  [Name.literal "VALUE1", Name.literal "VALUE2"]

/-- Appends an empty object type, or an enum with placeholder values, under the first free name of
the base. -/
def addType (schema : Schema) (fresh : FreshIds) (kind : TypeKind) (baseName : Name) :
    EditOutcome × Schema :=
  let name := baseName.unused (schema.types.map fun decl => decl.name)
  let body := match kind with
    | .object => Body.object []
    | .enumeration => Body.enumeration placeholderValues
  (.typeAdded fresh.type name,
    ⟨schema.types ++ [{ name := name, body := body, id := fresh.type }]⟩)

/-- Renames a type, unless another type has the name.  Type references stay as they are. -/
def renameType (schema : Schema) (typeId : TypeId) (newName : Name) :
    Except SchemaError Schema := do
  let _ ← schema.requireType typeId
  if (schema.types.eraseP fun decl => decl.id = typeId).any fun decl => decl.name = newName then
    .error (.nameConflict newName none)
  else
    return schema.updateType typeId fun decl => { decl with name := newName }

def deleteType (schema : Schema) (typeId : TypeId) : Except SchemaError (TypeDecl × Schema) := do
  let decl ← schema.requireType typeId
  return (decl, ⟨schema.types.eraseP fun decl => decl.id = typeId⟩)

def addField (schema : Schema) (fresh : FreshIds) (typeId : TypeId) (baseName : Name) :
    Except SchemaError (Name × Schema) := do
  let decl ← schema.requireType typeId
  let fields ← decl.requireFields
  let name := baseName.unused (fields.map fun field => field.name)
  let field : FieldDecl := { name := name, typeName := defaultFieldType, id := fresh.field }
  return (name, schema.updateType typeId (TypeDecl.mapFields (· ++ [field])))

def renameField (schema : Schema) (typeId : TypeId) (fieldId : FieldId) (newName : Name) :
    Except SchemaError Schema := do
  let decl ← schema.requireType typeId
  let _ ← decl.requireField fieldId
  if (decl.fields.eraseP fun field => field.id = fieldId).any fun field => field.name = newName then
    .error (.nameConflict newName (some decl.name))
  else
    return schema.updateType typeId
      (TypeDecl.updateField fieldId fun field => { field with name := newName })

def deleteField (schema : Schema) (typeId : TypeId) (fieldId : FieldId) :
    Except SchemaError (FieldDecl × Schema) := do
  let decl ← schema.requireType typeId
  let field ← decl.requireField fieldId
  return (field, schema.updateType typeId (TypeDecl.removeField fieldId))

/-- Moves a field in front of the field `before` of the target type, or to its end when the target
has no such field.  Within one type the field only changes its place, and it stays where it is when
it is to stand before itself.  In another type it takes the first free name of its own. -/
def moveField (schema : Schema) (source : TypeId) (fieldId : FieldId) (target : TypeId)
    (before : Option FieldId) : Except SchemaError (Name × Schema) := do
  let sourceDecl ← schema.requireType source
  let targetDecl ← schema.requireType target
  let field ← sourceDecl.requireField fieldId
  let targetFields ← targetDecl.requireFields
  let insert (moved : FieldDecl) : List FieldDecl → List FieldDecl :=
    insertBefore (fun other => before = some other.id) moved
  if source = target then
    if before = some fieldId then
      return (field.name, schema)
    else
      return (field.name, schema.updateType source fun decl =>
        (decl.removeField fieldId).mapFields (insert field))
  else
    let name := field.name.unused (targetFields.map fun other => other.name)
    return (name, (schema.updateType source (TypeDecl.removeField fieldId)).updateType target
      (TypeDecl.mapFields (insert { field with name := name })))

def addEnumValue (schema : Schema) (typeId : TypeId) (baseValue : Name) :
    Except SchemaError (Name × Schema) := do
  let decl ← schema.requireType typeId
  let values ← decl.requireValues
  let value := baseValue.unused values
  return (value, schema.updateType typeId (TypeDecl.mapValues (· ++ [value])))

def deleteEnumValue (schema : Schema) (typeId : TypeId) (value : Name) :
    Except SchemaError Schema := do
  let decl ← schema.requireType typeId
  let values ← decl.requireValues
  if value ∈ values then
    return schema.updateType typeId (TypeDecl.mapValues (List.filter fun other => other ≠ value))
  else
    .error (.unknownEnumValue decl.name value)

/-- Sets the description of a type or field; a blank one is no description. -/
def setDescription (schema : Schema) (target : EditTarget) (description : Option Text) :
    Except SchemaError Schema :=
  let kept := description.filter fun text => !text.isBlank
  match target with
  | .type typeId => do
      let _ ← schema.requireType typeId
      return schema.updateType typeId fun decl => { decl with description := kept }
  | .field typeId fieldId =>
      schema.changeField typeId fieldId fun field => { field with description := kept }

def requireDirectives (schema : Schema) : EditTarget → Except SchemaError (List Directive)
  | .type typeId => do
      let decl ← schema.requireType typeId
      return decl.directives
  | .field typeId fieldId => do
      let decl ← schema.requireType typeId
      let field ← decl.requireField fieldId
      return field.directives

def updateDirectives (target : EditTarget) (f : List Directive → List Directive)
    (schema : Schema) : Schema :=
  match target with
  | .type typeId =>
      schema.updateType typeId fun decl => { decl with directives := f decl.directives }
  | .field typeId fieldId =>
      schema.updateType typeId (TypeDecl.updateField fieldId fun field =>
        { field with directives := f field.directives })

/-- Takes out every directive with the given name, and says whether there was one. -/
def removeDirective (schema : Schema) (target : EditTarget) (name : Name) :
    Except SchemaError (Bool × Schema) := do
  let directives ← schema.requireDirectives target
  return (directives.any fun directive => directive.name = name,
    schema.updateDirectives target (List.filter fun directive => directive.name ≠ name))

/-- Puts a directive in the place of the first one of its name, or at the end if there is none, and
takes out all others of its name. -/
def placeDirective (new : Directive) : List Directive → List Directive
  | [] => [new]
  | directive :: rest =>
      if directive.name = new.name then
        new :: rest.filter fun other => other.name ≠ new.name
      else
        directive :: placeDirective new rest

def clearsAccessScope (directive : Directive) : Bool :=
  directive.name = Family.accessScope.name &&
    ((Family.accessScope.value? directive).map Text.isBlank).getD true

/-- Sets a directive in the place of all others of its name.  An access scope that is missing or blank
removes the access scope. -/
def setDirective (schema : Schema) (target : EditTarget) (directive : Directive) :
    Except SchemaError Schema :=
  match directive.arguments.entries.find? fun entry => !isIdentifier entry.1 with
  | some entry => .error (.invalidName entry.1)
  | none => do
      let _ ← schema.requireDirectives target
      if clearsAccessScope directive then
        return schema.updateDirectives target
          (List.filter fun other => other.name ≠ directive.name)
      else
        return schema.updateDirectives target (placeDirective directive)

def setAccessScope (schema : Schema) (target : EditTarget) (scope : Text) :
    Except SchemaError Schema :=
  schema.setDirective target (Family.accessScope.compose scope.trim)

/-- Carries out one edit.  The ids in `fresh` go to what the edit adds. -/
def apply (schema : Schema) (fresh : FreshIds) : Edit → Except SchemaError (EditOutcome × Schema)
  | .addType kind baseName => .ok (schema.addType fresh kind baseName)
  | .renameType typeId newName => do
      return (.updated, ← schema.renameType typeId newName)
  | .deleteType typeId => do
      let (decl, after) ← schema.deleteType typeId
      return (.typeDeleted decl, after)
  | .addField typeId baseName => do
      let (name, after) ← schema.addField fresh typeId baseName
      return (.fieldAdded fresh.field name, after)
  | .renameField typeId fieldId newName => do
      return (.updated, ← schema.renameField typeId fieldId newName)
  | .deleteField typeId fieldId => do
      let (field, after) ← schema.deleteField typeId fieldId
      return (.fieldDeleted field, after)
  | .moveField source fieldId target before => do
      let (name, after) ← schema.moveField source fieldId target before
      return (.fieldMoved fieldId name, after)
  | .setFieldType typeId fieldId typeName => do
      return (.updated, ← schema.changeField typeId fieldId fun field =>
        { field with typeName := typeName })
  | .setFieldList typeId fieldId isList => do
      return (.updated, ← schema.changeField typeId fieldId fun field =>
        { field with isList := isList })
  | .setFieldRequired typeId fieldId isRequired => do
      return (.updated, ← schema.changeField typeId fieldId fun field =>
        { field with isRequired := isRequired })
  | .setDescription target description => do
      return (.updated, ← schema.setDescription target description)
  | .addEnumValue typeId baseValue => do
      let (value, after) ← schema.addEnumValue typeId baseValue
      return (.enumValueAdded value, after)
  | .deleteEnumValue typeId value => do
      return (.updated, ← schema.deleteEnumValue typeId value)
  | .setDirective target directive => do
      return (.updated, ← schema.setDirective target directive)
  | .removeDirective target name => do
      let (_, after) ← schema.removeDirective target name
      return (.updated, after)
  | .setAccessScope target scope => do
      return (.updated, ← schema.setAccessScope target scope)

end Schema

end SdlWorkbench
