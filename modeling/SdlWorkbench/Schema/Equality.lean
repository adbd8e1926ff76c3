import SdlWorkbench.Schema.Basic
/-!
Structural equality: the comparison of schemas that does not look at ids.
-/

namespace SdlWorkbench

def listsAgree {α : Type} (agree : α → α → Bool) : List α → List α → Bool
  | [], [] => true
  | a :: as, b :: bs => agree a b && listsAgree agree as bs
  | _, _ => false

def FieldDecl.structurallyEq (left right : FieldDecl) : Bool :=
  left.name = right.name && left.typeName = right.typeName && left.isList = right.isList &&
    left.isRequired = right.isRequired && left.description = right.description &&
    left.directives = right.directives

def Body.structurallyEq : Body FieldDecl → Body FieldDecl → Bool
  | .object left, .object right => listsAgree FieldDecl.structurallyEq left right
  | .enumeration left, .enumeration right => left = right
  | _, _ => false

def TypeDecl.structurallyEq (left right : TypeDecl) : Bool :=
  left.name = right.name && left.description = right.description &&
    left.directives = right.directives && left.body.structurallyEq right.body

/-- Whether two schemas differ in nothing but ids. -/
def Schema.structurallyEq (left right : Schema) : Bool :=
  listsAgree TypeDecl.structurallyEq left.types right.types

end SdlWorkbench
