import SdlWorkbench.Command.Discovery
import SdlWorkbench.Command.Report
/-!
The command that lists the types of a file with their members and access scopes.
-/

namespace SdlWorkbench

namespace FieldDecl

def scope? (field : FieldDecl) : Option Text :=
  Directive.accessScope? field.directives

def listingData (field : FieldDecl) : Data :=
  .record [("id".toList, .text field.id.text),
    ("list".toList, .boolean field.isList),
    ("name".toList, .text field.name.text),
    ("required".toList, .boolean field.isRequired),
    ("scope".toList, (field.scope?.map Data.text).getD .null),
    ("type".toList, .text field.toField.typeText)]

end FieldDecl

namespace TypeDecl

def scope? (decl : TypeDecl) : Option Text :=
  Directive.accessScope? decl.directives

def listingData (decl : TypeDecl) : Data :=
  let members := match decl.body with
    | .object fields => ("fields".toList, Data.list (fields.map FieldDecl.listingData))
    | .enumeration values =>
        ("values".toList, Data.list (values.map fun value => .text value.text))
  Data.sortedRecord [("id".toList, .text decl.id.text),
    ("name".toList, .text decl.name.text),
    ("kind".toList, .text decl.kind.keyword),
    ("description".toList, (decl.description.map Data.text).getD .null),
    ("scope".toList, (decl.scope?.map Data.text).getD .null),
    members]

def listingLines (decl : TypeDecl) : List Text :=
  let scope := match decl.scope? with
    | some scope => "  scope: ".toList ++ scope
    | none => []
  let heading := decl.kind.keyword ++ ' ' :: decl.name.text ++ scope
  let description := match decl.description with
    | some text => ["  \"".toList ++ text.lines.headD [] ++ ['"']]
    | none => []
  let members := match decl.body with
    | .object fields => fields.map fun field =>
        let scope := match field.scope? with
          | some scope => "scope: ".toList ++ scope
          | none => []
        "  ".toList ++ field.name.text.padRight 20 ++ ' ' :: field.toField.typeText.padRight 20 ++
          ' ' :: scope
    | .enumeration values => values.map fun value => "  ".toList ++ value.text
  heading :: description ++ members

/-- The rows of a type, one for each member: type, member, type of the member and scope, with tabs
between them. -/
def listingRows (decl : TypeDecl) : List Text :=
  let row (cells : List Text) : Text := ['\t'].intercalate cells
  match decl.body with
  | .object fields => fields.map fun field =>
      row [decl.name.text, field.name.text, field.toField.typeText, field.scope?.getD []]
  | .enumeration values => values.map fun value => row [decl.name.text, value.text, [], []]

end TypeDecl

def Schema.selection (schema : Schema) : Option Text → Except CommandError (List TypeDecl)
  | none => .ok schema.types
  | some name =>
      match schema.typeNamed? name with
      | some decl => .ok [decl]
      | none => .error (.noType name)

def listingText (types : List TypeDecl) : Text :=
  ['\n'].intercalate (types.map fun decl => decl.listingLines.flatMap Text.asLine)

def listedTypes (supply : IdSupply) (file : Text) (type : Option Text) (store : Store) :
    Except CommandError (List TypeDecl) := do
  let source ← store.source file
  match Schema.ofText supply source with
  | .error errors => throw (.unreadable file source errors)
  | .ok (schema, _) => schema.selection type

def inspectFile (style : Style) (supply : IdSupply) (file : Text) (type : Option Text)
    (store : Store) : Report :=
  match listedTypes supply file type store with
  | .error error => style.report [] [] (some error) store
  | .ok types =>
      match style.format with
      | .human =>
          let notice := if types.isEmpty then style.notice "No types declared." else []
          style.report (listingText types) notice none store
      | .json =>
          let document := Style.document
            (.record [("types".toList, .list (types.map TypeDecl.listingData))])
          style.report document [] none store
      | .plain =>
          style.report (types.flatMap fun decl => decl.listingRows.flatMap Text.asLine) [] none store

end SdlWorkbench
