import SdlWorkbench.Schema.Basic
import SdlWorkbench.Directive.Codec
/-!
The canonical text of a document.

`Document.render` writes a document at any indentation.  `Document.fault?` finds the first thing in
document order that cannot be written so that it reads back, and `Document.print` renders a document
that has no fault.
-/

namespace SdlWorkbench

inductive PrintError where
  /-- The value of an argument holds a quote, a backslash or a line end. -/
  | unquotableArgument (directive : Name) (key value : Text)
  | invalidArgumentKey (directive : Name) (key : Text)
  /-- The description of a type, or of one of its fields, holds a triple quote or ends in a quote. -/
  | unquotableDescription (type : Name) (field : Option Name)
deriving DecidableEq

def PrintError.message : PrintError → String
  | unquotableArgument directive key value =>
      s!"argument '{key}' of '@{directive}' cannot be quoted: {value.quoted}"
  | invalidArgumentKey directive key =>
      s!"argument key {key.quoted} of '@{directive}' is not an identifier"
  | unquotableDescription type none => s!"description of '{type}' cannot be quoted"
  | unquotableDescription type (some field) =>
      s!"description of '{type}.{field}' cannot be quoted"

/-- Whether a text can stand between double quotes without an escape. -/
def Text.isQuotable (text : Text) : Bool :=
  text.all fun c => c ≠ '"' && c ≠ '\\' && c ≠ '\n' && c ≠ '\r'

def Text.isDescribable (text : Text) : Bool :=
  !text.includes ['"', '"', '"'] && text.getLast? ≠ some '"'

/-- What keeps a directive from being written: the first key that is no identifier, or else the first
value that cannot be quoted. -/
def Directive.fault? (directive : Directive) : Option PrintError :=
  match directive.arguments.entries.find? fun entry => !isIdentifier entry.1 with
  | some entry => some (.invalidArgumentKey directive.name entry.1)
  | none =>
      (directive.arguments.entries.find? fun entry => !entry.2.isQuotable).map fun entry =>
        .unquotableArgument directive.name entry.1 entry.2

def descriptionFault? (type : Name) (field : Option Name) : Option Text → Option PrintError
  | none => none
  | some text => if text.isDescribable then none else some (.unquotableDescription type field)

namespace Field

def fault? (owner : Name) (field : Field) : Option PrintError :=
  (descriptionFault? owner (some field.name) field.description).or
    (field.directives.findSome? Directive.fault?)

end Field

namespace Declaration

def fault? (declaration : Declaration Field) : Option PrintError :=
  ((descriptionFault? declaration.name none declaration.description).or
    (declaration.directives.findSome? Directive.fault?)).or
      (declaration.body.fields.findSome? (Field.fault? declaration.name))

end Declaration

/-- A line of a block string.  An empty line is not indented. -/
def renderBlockLine (indent line : Text) : Text :=
  (if line.isEmpty then [] else indent ++ line) ++ ['\n']

/-- A description on lines of its own: between triple quotes with one line for each line of the text
when it has several, between triple quotes on one line when it holds a quote or a backslash, and
between double quotes otherwise. -/
def renderDescription (indent text : Text) : Text :=
  if '\n' ∈ text then
    indent ++ "\"\"\"\n".toList ++ text.lines.flatMap (renderBlockLine indent) ++
      indent ++ "\"\"\"\n".toList
  else if '"' ∈ text ∨ '\\' ∈ text then
    indent ++ "\"\"\"".toList ++ text ++ "\"\"\"\n".toList
  else indent ++ '"' :: text ++ "\"\n".toList

def renderOptionalDescription (indent : Text) : Option Text → Text
  | none => []
  | some text => renderDescription indent text

def renderDirectives (directives : List Directive) : Text :=
  directives.flatMap fun directive => ' ' :: directive.encode

namespace Field

def render (indent : Text) (field : Field) : Text :=
  renderOptionalDescription indent field.description ++
    (indent ++ field.name.text ++ ": ".toList ++ field.typeText ++
      renderDirectives field.directives ++ ['\n'])

end Field

def Body.render (indent : Text) : Body Field → Text
  | .object fields => fields.flatMap (Field.render indent)
  | .enumeration values => values.flatMap fun value => indent ++ value.text ++ ['\n']

namespace Declaration

def render (indent : Text) (declaration : Declaration Field) : Text :=
  renderOptionalDescription [] declaration.description ++
    (declaration.body.kind.keyword ++ ' ' :: declaration.name.text ++
      renderDirectives declaration.directives ++ " \x7b\n".toList ++
      declaration.body.render indent ++ ['\x7d'])

end Declaration

namespace Document

/-- The declarations with an empty line between neighbours; members are indented by `width`
spaces. -/
def render (width : Nat) (document : Document) : Text :=
  ['\n', '\n'].intercalate (document.map (Declaration.render (List.replicate width ' ')))

def fault? (document : Document) : Option PrintError :=
  document.findSome? Declaration.fault?

/-- The canonical text of a document, or its first fault. -/
def print (width : Nat) (document : Document) : Except PrintError Text :=
  match document.fault? with
  | none => .ok (document.render width)
  | some error => .error error

end Document

namespace Schema

/-- The canonical text of a schema.  Ids do not show in it. -/
def print (width : Nat) (schema : Schema) : Except PrintError Text :=
  schema.document.print width

/-- Reads a schema; the ids come from the supply. -/
def ofText (supply : IdSupply) (text : Text) : Except (List SyntaxError) (Schema × IdSupply) :=
  (Document.ofText text).map fun document => document.identify supply

end Schema

end SdlWorkbench
