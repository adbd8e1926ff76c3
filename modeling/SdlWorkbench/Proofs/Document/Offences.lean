import SdlWorkbench.Proofs.Document.Descriptions
/-!
The first thing that cannot be written.

`Document.inscriptions` lists what a document hands to the writer as it stands, in document order:
descriptions, keys of arguments and their values.  Whether one of them offends is a property of its
text alone.  A document has a fault exactly when one of them offends, and the fault names the first
that does.
-/

namespace SdlWorkbench

/-- The text holds a character that cannot stand between double quotes as it is. -/
def Text.NeedsEscape (text : Text) : Prop :=
  ∃ c ∈ text, c = '"' ∨ c = '\\' ∨ c = '\n' ∨ c = '\r'

/-- Behind three quotes the text would close the block before its end. -/
def Text.BreaksBlock (text : Text) : Prop :=
  ['"', '"', '"'] <:+: text ∨ text.getLast? = some '"'

theorem Text.isQuotable_eq_false_iff (text : Text) :
    text.isQuotable = false ↔ text.NeedsEscape := by
  unfold isQuotable NeedsEscape
  rw [List.all_eq_false]
  apply exists_congr
  intro c
  apply and_congr_right
  intro _
  simp
  tauto

theorem Text.isDescribable_eq_false_iff (text : Text) :
    text.isDescribable = false ↔ text.BreaksBlock := by
  unfold BreaksBlock
  rw [← Bool.not_eq_true, isDescribable_iff]
  tauto

/-- A part of a document that is written as it stands, with what an error tells of its place. -/
inductive Inscription where
  | description (type : Name) (field : Option Name) (text : Text)
  | argumentKey (directive : Name) (key : Text)
  | argumentValue (directive : Name) (key value : Text)

namespace Inscription

def Offends : Inscription → Prop
  | description _ _ text => text.BreaksBlock
  | argumentKey _ key => isIdentifier key = false
  | argumentValue _ _ value => value.NeedsEscape

def error : Inscription → PrintError
  | description type field _ => .unquotableDescription type field
  | argumentKey directive key => .invalidArgumentKey directive key
  | argumentValue directive key value => .unquotableArgument directive key value

def isRefused : Inscription → Bool
  | description _ _ text => !text.isDescribable
  | argumentKey _ key => !isIdentifier key
  | argumentValue _ _ value => !value.isQuotable

theorem isRefused_iff (item : Inscription) : item.isRefused = true ↔ item.Offends := by
  unfold isRefused Offends
  cases item with
  | description type field text => rw [Bool.not_eq_true', text.isDescribable_eq_false_iff]
  | argumentKey directive key => rw [Bool.not_eq_true']
  | argumentValue directive key value => rw [Bool.not_eq_true', value.isQuotable_eq_false_iff]

instance : DecidablePred Offends :=
  fun item => decidable_of_iff _ item.isRefused_iff

theorem decide_offends : (fun item : Inscription => decide item.Offends) = isRefused := by
  funext item
  rw [Bool.eq_iff_iff, decide_eq_true_iff, isRefused_iff]

def firstError? (items : List Inscription) : Option PrintError :=
  (items.find? isRefused).map error

theorem firstError?_append (left right : List Inscription) :
    firstError? (left ++ right) = (firstError? left).or (firstError? right) := by
  unfold firstError?
  rw [List.find?_append, Option.map_or]

theorem firstError?_flatMap {α : Type} (parts : α → List Inscription) (items : List α) :
    firstError? (items.flatMap parts) = items.findSome? fun item => firstError? (parts item) := by
  induction items with
  | nil => rfl
  | cons first rest ih =>
      rw [List.flatMap_cons, firstError?_append, ih, List.findSome?_cons]
      cases firstError? (parts first) <;> rfl

theorem firstError?_map {α : Type} (item : α → Inscription) (sources : List α) :
    firstError? (sources.map item) =
      (sources.find? fun source => (item source).isRefused).map fun source =>
        (item source).error := by
  unfold firstError?
  rw [List.find?_map, Option.map_map]
  rfl

theorem firstError?_eq_none_iff {items : List Inscription} :
    firstError? items = none ↔ ∀ item ∈ items, ¬ item.Offends := by
  unfold firstError?
  rw [Option.map_eq_none_iff, List.find?_eq_none]
  simp only [isRefused_iff]

theorem firstError?_eq_some_iff {items : List Inscription} {error : PrintError} :
    firstError? items = some error ↔ ∃ item, IsFirst Offends item items ∧ item.error = error := by
  unfold firstError?
  rw [Option.map_eq_some_iff, ← decide_offends]
  simp only [find?_eq_some_iff_isFirst]

end Inscription

open Inscription

/-- The keys of the arguments come before their values. -/
def Directive.inscriptions (directive : Directive) : List Inscription :=
  (directive.arguments.entries.map fun entry => argumentKey directive.name entry.1) ++
    directive.arguments.entries.map fun entry => argumentValue directive.name entry.1 entry.2

def descriptionInscriptions (type : Name) (field : Option Name) (text : Option Text) :
    List Inscription :=
  text.toList.map (description type field)

def Field.inscriptions (owner : Name) (field : Field) : List Inscription :=
  descriptionInscriptions owner (some field.name) field.description ++
    field.directives.flatMap Directive.inscriptions

def Declaration.inscriptions (declaration : Declaration Field) : List Inscription :=
  descriptionInscriptions declaration.name none declaration.description ++
    declaration.directives.flatMap Directive.inscriptions ++
      declaration.body.fields.flatMap (Field.inscriptions declaration.name)

def Document.inscriptions (document : Document) : List Inscription :=
  document.flatMap Declaration.inscriptions

theorem Directive.fault?_eq_firstError? (directive : Directive) :
    directive.fault? = firstError? directive.inscriptions := by
  unfold fault? inscriptions
  rw [firstError?_append, firstError?_map, firstError?_map]
  -- `fault?` looks at the values only when no key is bad, which is what `or` does.
  change _ = Option.or (Option.map _ (directive.arguments.entries.find? fun entry =>
    !isIdentifier entry.1)) _
  cases directive.arguments.entries.find? fun entry => !isIdentifier entry.1 <;> rfl

/-- A bad key is named although the value of an earlier key is bad. -/
example : Directive.fault? ⟨Name.literal "cost", Arguments.empty.insert "a".toList ['"']
    |>.insert "b c".toList []⟩ =
      some (.invalidArgumentKey (Name.literal "cost") "b c".toList) := by
  decide

theorem descriptionFault?_eq_firstError? (type : Name) (field : Option Name)
    (text : Option Text) :
    descriptionFault? type field text = firstError? (descriptionInscriptions type field text) := by
  cases text with
  | none => rfl
  | some text =>
      cases sound : text.isDescribable <;>
        simp [descriptionFault?, descriptionInscriptions, firstError?, isRefused,
          Inscription.error, sound]

theorem Field.fault?_eq_firstError? (owner : Name) (field : Field) :
    field.fault? owner = firstError? (field.inscriptions owner) := by
  unfold fault? inscriptions
  rw [firstError?_append, firstError?_flatMap, descriptionFault?_eq_firstError?]
  simp only [← Directive.fault?_eq_firstError?]

theorem Declaration.fault?_eq_firstError? (declaration : Declaration Field) :
    declaration.fault? = firstError? declaration.inscriptions := by
  unfold fault? inscriptions
  rw [firstError?_append, firstError?_append, firstError?_flatMap, firstError?_flatMap,
    descriptionFault?_eq_firstError?]
  simp only [← Directive.fault?_eq_firstError?, ← Field.fault?_eq_firstError?]

/-- The fault of a document is the error of the first thing in it that offends. -/
theorem Document.fault?_eq_firstError? (document : Document) :
    document.fault? = firstError? document.inscriptions := by
  unfold fault? inscriptions
  rw [firstError?_flatMap]
  simp only [← Declaration.fault?_eq_firstError?]

/-- An argument of the directive cannot be written. -/
def Directive.IsUnquotable (directive : Directive) : Prop :=
  ∃ entry ∈ directive.arguments.entries, isIdentifier entry.1 = false ∨ entry.2.NeedsEscape

def Declaration.allDirectives (declaration : Declaration Field) : List Directive :=
  declaration.directives ++ declaration.body.fields.flatMap fun field => field.directives

def Document.directives (document : Document) : List Directive :=
  document.flatMap Declaration.allDirectives

theorem Directive.forall_mem_inscriptions_iff {directive : Directive} :
    (∀ item ∈ directive.inscriptions, ¬ item.Offends) ↔ ¬ directive.IsUnquotable := by
  unfold inscriptions IsUnquotable
  rw [List.forall_mem_append, List.forall_mem_map, List.forall_mem_map, ← forall₂_and]
  simp only [Offends, not_exists, not_and, not_or]

theorem forall_mem_descriptionInscriptions_iff {type : Name} {field : Option Name}
    {written : Option Text} :
    (∀ item ∈ descriptionInscriptions type field written, ¬ item.Offends) ↔
      ∀ text ∈ written.toList, ¬ text.BreaksBlock := by
  unfold descriptionInscriptions
  rw [List.forall_mem_map]
  rfl

theorem Field.forall_mem_inscriptions_iff {owner : Name} {field : Field} :
    (∀ item ∈ field.inscriptions owner, ¬ item.Offends) ↔
      (∀ directive ∈ field.directives, ¬ directive.IsUnquotable) ∧
        ∀ text ∈ field.descriptions, ¬ text.BreaksBlock := by
  unfold inscriptions
  rw [List.forall_mem_append, List.forall_mem_flatMap, forall_mem_descriptionInscriptions_iff,
    and_comm]
  simp only [Directive.forall_mem_inscriptions_iff]
  rfl

theorem Declaration.forall_mem_inscriptions_iff {declaration : Declaration Field} :
    (∀ item ∈ declaration.inscriptions, ¬ item.Offends) ↔
      (∀ directive ∈ declaration.allDirectives, ¬ directive.IsUnquotable) ∧
        ∀ text ∈ declaration.descriptions, ¬ text.BreaksBlock := by
  unfold inscriptions allDirectives
  rw [List.forall_mem_append, List.forall_mem_append, List.forall_mem_append,
    List.forall_mem_flatMap, List.forall_mem_flatMap, List.forall_mem_flatMap,
    forall_mem_descriptionInscriptions_iff, forall_mem_descriptions]
  simp only [Directive.forall_mem_inscriptions_iff, Field.forall_mem_inscriptions_iff, forall₂_and]
  tauto

theorem Document.forall_mem_inscriptions_iff {document : Document} :
    (∀ item ∈ document.inscriptions, ¬ item.Offends) ↔
      (∀ directive ∈ document.directives, ¬ directive.IsUnquotable) ∧
        ∀ text ∈ document.descriptions, ¬ text.BreaksBlock := by
  unfold inscriptions directives
  rw [List.forall_mem_flatMap, List.forall_mem_flatMap, forall_mem_descriptions, ← forall₂_and]
  simp only [Declaration.forall_mem_inscriptions_iff]

theorem Document.exists_fault_iff {document : Document} :
    (∃ error, document.fault? = some error) ↔
      (∃ directive ∈ document.directives, directive.IsUnquotable) ∨
        ∃ text ∈ document.descriptions, text.BreaksBlock := by
  rw [← Option.ne_none_iff_exists', fault?_eq_firstError?, Ne, firstError?_eq_none_iff,
    forall_mem_inscriptions_iff, not_and_or]
  simp only [not_forall, not_not, exists_prop]

end SdlWorkbench
