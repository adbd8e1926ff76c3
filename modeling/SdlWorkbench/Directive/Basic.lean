import SdlWorkbench.Name
import SdlWorkbench.Directive.Arguments
/-!
Directives, and the families of directives whose argument the workbench understands.
-/

namespace SdlWorkbench

/-- An annotation of a type or field, such as `@dpi_requiredScope(scope:"admin")`. -/
structure Directive where
  name : Name
  arguments : Arguments := Arguments.empty
deriving DecidableEq

/-- The well-known families of directives, each with one argument of its own. -/
inductive Family where
  /-- The scope that is required to see the annotated type or field. -/
  | accessScope
  /-- The version of the standardized attribute that a field stands for. -/
  | standardizedAttribute
  /-- The version of the data entity that a type stands for. -/
  | dataEntity
deriving DecidableEq

namespace Family

/-- All families, in the order in which a name is looked up. -/
def all : List Family :=
  [accessScope, standardizedAttribute, dataEntity]

def name : Family → Name
  | accessScope => Name.literal "dpi_requiredScope"
  | standardizedAttribute => Name.literal "standardizedAttribute"
  | dataEntity => Name.literal "dataEntity"

def argument : Family → Text
  | accessScope => "scope".toList
  | standardizedAttribute => "standardizedAttributeVersionId".toList
  | dataEntity => "dataEntityVersionId".toList

/-- The families that refer to a version of an entry in a catalogue. -/
def isVersioned : Family → Bool
  | accessScope => false
  | standardizedAttribute | dataEntity => true

def ofName? (text : Text) : Option Family :=
  all.find? fun family => family.name.text = text

def compose (family : Family) (value : Text) : Directive where
  name := family.name
  arguments := Arguments.empty.insert family.argument value

def value? (family : Family) (directive : Directive) : Option Text :=
  if directive.name = family.name then directive.arguments.get? family.argument else none

instance : ToString Family := ⟨fun family => s!"@{family.name}"⟩

end Family

namespace Directive

def family? (directive : Directive) : Option Family :=
  Family.ofName? directive.name.text

def isDeprecated (directive : Directive) : Bool :=
  directive.name = Name.literal "deprecated"

/-- The access scope that a list of directives sets: that of the first access-scope directive that
has a scope at all. -/
def accessScope? (directives : List Directive) : Option Text :=
  directives.findSome? Family.accessScope.value?

end Directive

end SdlWorkbench
