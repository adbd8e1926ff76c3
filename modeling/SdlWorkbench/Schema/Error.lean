import SdlWorkbench.Schema.Basic
/-!
The reasons for which an edit, a name or an id is refused.
-/

namespace SdlWorkbench

inductive SchemaError where
  | invalidName (text : Text)
  /-- The name is carried by another type, or by another field of the type `within`. -/
  | nameConflict (name : Name) (within : Option Name)
  /-- The text is not an id of the expected kind. -/
  | invalidId (expected : IdKind) (text : Text)
  | unknownType (type : Text)
  /-- No field of the type has this id, or this name. -/
  | unknownField (typeName field : Text)
  | unknownEnumValue (typeName value : Name)
  | kindMismatch (typeName : Name) (expected : TypeKind)
deriving DecidableEq

namespace SchemaError

def message : SchemaError → String
  | invalidName text => s!"invalid name '{text}': must match [_A-Za-z][_0-9A-Za-z]*"
  | nameConflict name none => s!"type name '{name}' is already taken"
  | nameConflict name (some owner) => s!"name '{name}' is already taken within type '{owner}'"
  | invalidId expected text => s!"invalid {expected.label} id '{text}'"
  | unknownType type => s!"unknown type '{type}'"
  | unknownField typeName field => s!"unknown field '{field}' in type '{typeName}'"
  | unknownEnumValue typeName value => s!"enum '{typeName}' has no value '{value}'"
  | kindMismatch typeName expected => s!"type '{typeName}' is not {expected.phrase}"

end SchemaError

def Name.read (text : Text) : Except SchemaError Name :=
  match ofText? text with
  | some name => .ok name
  | none => .error (.invalidName text)

def Id.read (kind : IdKind) (text : Text) : Except SchemaError (Id kind) :=
  match ofText? kind text with
  | some id => .ok id
  | none => .error (.invalidId kind text)

/-- Reads a directive name, which may be written with its `@`. -/
def Directive.readName (text : Text) : Except SchemaError Name :=
  match text with
  | '@' :: rest => Name.read rest
  | _ => Name.read text

end SdlWorkbench
