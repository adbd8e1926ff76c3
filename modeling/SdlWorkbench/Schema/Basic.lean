import SdlWorkbench.Directive.Basic
import SdlWorkbench.Id
/-!
The model: a schema is a list of object and enum declarations in document order.

A `Document` is what a text says: declarations without ids.  A `Schema` is a document whose
declarations and fields have ids, so that edits can address them.  `Schema.document` forgets the ids
and `Document.identify` hands them out; printing, and every comparison that ignores ids, looks at the
document alone.
-/

namespace SdlWorkbench

/-- What a text says about a field.  The type reference is not resolved.  One flag stands for
`T!`, `[T!]`, `[T]!` and `[T!]!`. -/
structure Field where
  name : Name
  typeName : Name
  isList : Bool := false
  isRequired : Bool := false
  description : Option Text := none
  directives : List Directive := []
deriving DecidableEq

structure FieldDecl extends Field where
  id : FieldId
deriving DecidableEq

inductive TypeKind where
  | object
  | enumeration
deriving DecidableEq

namespace TypeKind

def keyword : TypeKind → Text
  | object => "type".toList
  | enumeration => "enum".toList

def phrase : TypeKind → String
  | object => "an object type"
  | enumeration => "an enum type"

instance : ToString TypeKind := ⟨fun kind => String.ofList kind.keyword⟩

end TypeKind

/-- The members of a declaration: fields of an object type, values of an enum. -/
inductive Body (F : Type) where
  | object (fields : List F)
  | enumeration (values : List Name)
deriving DecidableEq

namespace Body

variable {F G : Type}

def kind : Body F → TypeKind
  | object _ => .object
  | enumeration _ => .enumeration

def fields : Body F → List F
  | object fields => fields
  | enumeration _ => []

def values : Body F → List Name
  | object _ => []
  | enumeration values => values

def map (f : F → G) : Body F → Body G
  | object fields => object (fields.map f)
  | enumeration values => enumeration values

end Body

structure Declaration (F : Type) where
  name : Name
  description : Option Text := none
  directives : List Directive := []
  body : Body F
deriving DecidableEq

/-- What a text says: declarations in order, without ids. -/
abbrev Document := List (Declaration Field)

structure TypeDecl extends Declaration FieldDecl where
  id : TypeId
deriving DecidableEq

structure Schema where
  types : List TypeDecl := []
deriving DecidableEq

/-- The type of a field as it is written, such as `[Role]!`. -/
def Field.typeText (field : Field) : Text :=
  (if field.isList then '[' :: field.typeName.text ++ [']'] else field.typeName.text) ++
    (if field.isRequired then ['!'] else [])

instance : ToString Field := ⟨fun field => s!"{field.name}: {field.typeText}"⟩

namespace TypeDecl

def kind (decl : TypeDecl) : TypeKind :=
  decl.body.kind

def fields (decl : TypeDecl) : List FieldDecl :=
  decl.body.fields

def values (decl : TypeDecl) : List Name :=
  decl.body.values

def field? (decl : TypeDecl) (id : FieldId) : Option FieldDecl :=
  decl.fields.find? fun field => field.id = id

def fieldNamed? (decl : TypeDecl) (name : Text) : Option FieldDecl :=
  decl.fields.find? fun field => field.name.text = name

def declaration (decl : TypeDecl) : Declaration Field where
  name := decl.name
  description := decl.description
  directives := decl.directives
  body := decl.body.map FieldDecl.toField

end TypeDecl

namespace Schema

def document (schema : Schema) : Document :=
  schema.types.map TypeDecl.declaration

def type? (schema : Schema) (id : TypeId) : Option TypeDecl :=
  schema.types.find? fun decl => decl.id = id

def typeNamed? (schema : Schema) (name : Text) : Option TypeDecl :=
  schema.types.find? fun decl => decl.name.text = name

/-- The fields of a declaration; none for enums and unknown ids. -/
def fields (schema : Schema) (id : TypeId) : List FieldDecl :=
  ((schema.type? id).map TypeDecl.fields).getD []

def values (schema : Schema) (id : TypeId) : List Name :=
  ((schema.type? id).map TypeDecl.values).getD []

/-- The field with the given id anywhere in the schema, after its owner. -/
def field? (schema : Schema) (id : FieldId) : Option (TypeDecl × FieldDecl) :=
  schema.types.findSome? fun decl => (decl.field? id).map fun field => (decl, field)

def fieldCount (schema : Schema) : Nat :=
  (schema.types.flatMap fun decl => decl.fields).length

def defaultFieldType : Name :=
  Name.literal "String"

def builtinScalars : List Name :=
  [Name.literal "ID", defaultFieldType, Name.literal "Int", Name.literal "Float",
    Name.literal "Boolean", Name.literal "DateTime", Name.literal "Upload"]

def namesOfKind (schema : Schema) (kind : TypeKind) : List Name :=
  (schema.types.filter fun decl => decl.kind = kind).map fun decl => decl.name

/-- The names a field may refer to: scalars, then object types, then enums. -/
def availableFieldTypes (schema : Schema) : List Name :=
  builtinScalars ++ schema.namesOfKind .object ++ schema.namesOfKind .enumeration

/-- One line for each declaration: its kind, its name and how many members it has. -/
def summary (schema : Schema) : String :=
  "\n".intercalate (schema.types.map fun decl =>
    s!"{decl.kind} {decl.name} ({decl.fields.length + decl.values.length} members)")

end Schema

namespace Document

def fieldCount (document : Document) : Nat :=
  (document.flatMap fun declaration => declaration.body.fields).length

def identifyFields : List Field → IdSupply → List FieldDecl × IdSupply
  | [], supply => ([], supply)
  | field :: rest, supply =>
      let (decls, supply') := identifyFields rest supply.advance
      ({ field with id := supply.fresh.field } :: decls, supply')

def identifyBody : Body Field → IdSupply → Body FieldDecl × IdSupply
  | .object fields, supply =>
      let (decls, supply') := identifyFields fields supply
      (.object decls, supply')
  | .enumeration values, supply => (.enumeration values, supply)

/-- Gives ids to declarations in order, each before its fields. -/
def identifyTypes : Document → IdSupply → List TypeDecl × IdSupply
  | [], supply => ([], supply)
  | declaration :: rest, supply =>
      let (body, bodySupply) := identifyBody declaration.body supply.advance
      let (decls, restSupply) := identifyTypes rest bodySupply
      ({ declaration with body := body, id := supply.fresh.type } :: decls, restSupply)

def identify (document : Document) (supply : IdSupply) : Schema × IdSupply :=
  let (types, supply') := identifyTypes document supply
  (⟨types⟩, supply')

theorem identifyFields_toField (fields : List Field) (supply : IdSupply) :
    (identifyFields fields supply).1.map FieldDecl.toField = fields := by
  induction fields generalizing supply with
  | nil => rfl
  | cons field rest inductionHypothesis =>
      simp only [identifyFields, List.map_cons]
      rw [inductionHypothesis]

theorem identifyBody_toField (body : Body Field) (supply : IdSupply) :
    (identifyBody body supply).1.map FieldDecl.toField = body := by
  cases body with
  | object fields => simp only [identifyBody, Body.map, identifyFields_toField]
  | enumeration values => rfl

theorem document_identify (document : Document) (supply : IdSupply) :
    (identify document supply).1.document = document := by
  unfold identify Schema.document
  simp only
  induction document generalizing supply with
  | nil => rfl
  | cons declaration rest inductionHypothesis =>
      simp only [identifyTypes, List.map_cons, inductionHypothesis, TypeDecl.declaration,
        identifyBody_toField]

end Document

end SdlWorkbench
