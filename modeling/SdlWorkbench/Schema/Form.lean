import SdlWorkbench.Data.Basic
/-!
The structured form of the model: how schemas, declarations, fields and directives are written as
data, and read again.

A description that is absent and a list of directives or arguments that is empty are left out, and a
reader takes a missing member for just that.
-/

namespace SdlWorkbench

def optionalMember (key : String) (value : Option Data) : List (Text × Data) :=
  match value with
  | none => []
  | some value => [(key.toList, value)]

def optionalList (key : String) (items : List Data) : List (Text × Data) :=
  match items with
  | [] => []
  | items => [(key.toList, .list items)]

namespace Arguments

def toData (arguments : Arguments) : Data :=
  .record (arguments.entries.map fun entry => (entry.1, .text entry.2))

def ofData? : Data → Option Arguments
  | .record members =>
      (members.mapM fun (member : Text × Data) =>
        member.2.text?.map fun value => (member.1, value)).map ofList
  | _ => none

end Arguments

namespace Directive

def toData (directive : Directive) : Data :=
  .record (("name".toList, .text directive.name.text) ::
    (if directive.arguments.entries.isEmpty then []
     else [("arguments".toList, directive.arguments.toData)]))

def ofData? (data : Data) : Option Directive := do
  let record ← data.record? ["name".toList] ["arguments".toList]
  let name ← record.name? "name".toList
  let arguments ← record.getOr? "arguments".toList Arguments.empty Arguments.ofData?
  return { name, arguments }

def listOfData? (data : Data) : Option (List Directive) := do
  (← data.list?).mapM ofData?

end Directive

def descriptionOfData? (record : Record) : Option (Option Text) :=
  record.optional? "description".toList Data.text?

namespace FieldDecl

def toData (field : FieldDecl) : Data :=
  .record (
    [("id".toList, .text field.id.text), ("name".toList, .text field.name.text),
      ("type_name".toList, .text field.typeName.text), ("is_list".toList, .boolean field.isList),
      ("is_required".toList, .boolean field.isRequired)] ++
    optionalMember "description" (field.description.map Data.text) ++
    optionalList "directives" (field.directives.map Directive.toData))

def ofData? (data : Data) : Option FieldDecl := do
  let record ← data.record? ["id".toList, "name".toList, "type_name".toList]
    ["is_list".toList, "is_required".toList, "description".toList, "directives".toList]
  let id ← record.id? .field "id".toList
  let name ← record.name? "name".toList
  let typeName ← record.name? "type_name".toList
  let isList ← record.getOr? "is_list".toList false Data.boolean?
  let isRequired ← record.getOr? "is_required".toList false Data.boolean?
  let description ← descriptionOfData? record
  let directives ← record.getOr? "directives".toList [] Directive.listOfData?
  return { id, name, typeName, isList, isRequired, description, directives }

end FieldDecl

namespace TypeKind

def formName : TypeKind → Text
  | object => "object".toList
  | enumeration => "enum".toList

def ofFormName? (text : Text) : Option TypeKind :=
  [object, enumeration].find? fun kind => kind.formName = text

/-- Reads a kind: its word, or a record whose only key is that word.  The key then leads to a value of
which `isNothing` holds. -/
def ofData? (isNothing : Data → Bool) : Data → Option TypeKind
  | .text word => ofFormName? word
  | .record [(word, value)] => if isNothing value then ofFormName? word else none
  | _ => none

/-- Reads the kind of something that is added, where both null and an empty record are nothing. -/
def ofNewData? : Data → Option TypeKind :=
  ofData? fun value =>
    match value with
    | .null | .record [] => true
    | _ => false

end TypeKind

namespace Body

def toData (body : Body FieldDecl) : Data :=
  .record [("kind".toList, .text body.kind.formName),
    ("members".toList, .list (match body with
      | object fields => fields.map FieldDecl.toData
      | enumeration values => values.map fun value => .text value.text))]

/-- Reads the kind that members belong to.  At the start of a list it is a word; in a record it may
also be the only key of a record that leads to null. -/
def kindOfData? : Data → Option TypeKind
  | .record members =>
      (members.lookup "kind".toList).bind <| TypeKind.ofData? fun value =>
        match value with
        | .null => true
        | _ => false
  | .list (.text word :: _) => TypeKind.ofFormName? word
  | _ => none

def ofData? (data : Data) : Option (Body FieldDecl) := do
  let record ← data.record? ["kind".toList, "members".toList] []
  let kind ← kindOfData? data
  let members ← (record.get? "members".toList).bind Data.list?
  match kind with
  | .object => return object (← members.mapM FieldDecl.ofData?)
  | .enumeration => return enumeration (← members.mapM Data.name?)

end Body

namespace TypeDecl

def toData (decl : TypeDecl) : Data :=
  .record (
    [("id".toList, .text decl.id.text), ("name".toList, .text decl.name.text)] ++
    optionalMember "description" (decl.description.map Data.text) ++
    optionalList "directives" (decl.directives.map Directive.toData) ++
    [("body".toList, decl.body.toData)])

def ofData? (data : Data) : Option TypeDecl := do
  let record ← data.record?
    ["id".toList, "name".toList, "description".toList, "directives".toList, "body".toList] []
  let id ← record.id? .type "id".toList
  let name ← record.name? "name".toList
  let description ← descriptionOfData? record
  let directives ← record.getOr? "directives".toList [] Directive.listOfData?
  let body ← (record.get? "body".toList).bind Body.ofData?
  return { id, name, description, directives, body }

end TypeDecl

namespace Schema

def toData (schema : Schema) : Data :=
  .record [("types".toList, .list (schema.types.map TypeDecl.toData))]

def ofData? (data : Data) : Option Schema := do
  let record ← data.record? ["types".toList] []
  let types ← (record.get? "types".toList).bind Data.list?
  return ⟨← types.mapM TypeDecl.ofData?⟩

end Schema

end SdlWorkbench
