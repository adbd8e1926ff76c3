import SdlWorkbench.Proofs.Schema.InPlace
/-!
When an edit is refused, and why.

What an edit demands of a schema falls into checks that can be made apart from each other.  An edit is
refused if one of them fails, the first that fails in a fixed order gives the error, and what the edit
wrote until then is nothing.
-/

namespace SdlWorkbench

inductive Check where
  | argumentKeys
  | typeExists
  | targetExists
  | typeKind
  | fieldExists
  | targetKind
  | content

def Check.inOrder : List Check :=
  [argumentKeys, typeExists, targetExists, typeKind, fieldExists, targetKind, content]

theorem Check.mem_inOrder (check : Check) : check ∈ inOrder := by
  cases check <;> simp [inOrder]

def EditTarget.fieldId? : EditTarget → Option FieldId
  | type _ => none
  | field _ fieldId => some fieldId

namespace Edit

/-- The type that is addressed, by itself or as the owner of a field.  For a move it is the source. -/
def typeId? : Edit → Option TypeId
  | addType .. => none
  | renameType typeId _ | deleteType typeId | addField typeId _ | renameField typeId _ _
  | deleteField typeId _ | moveField typeId _ _ _ | setFieldType typeId _ _
  | setFieldList typeId _ _ | setFieldRequired typeId _ _ | addEnumValue typeId _
  | deleteEnumValue typeId _ => some typeId
  | setDescription target _ | setDirective target _ | removeDirective target _
  | setAccessScope target _ => some target.typeId

def targetId? : Edit → Option TypeId
  | moveField _ _ target _ => some target
  | _ => none

def fieldId? : Edit → Option FieldId
  | renameField _ fieldId _ | deleteField _ fieldId | moveField _ fieldId _ _
  | setFieldType _ fieldId _ | setFieldList _ fieldId _ | setFieldRequired _ fieldId _ =>
      some fieldId
  | setDescription target _ | setDirective target _ | removeDirective target _
  | setAccessScope target _ => target.fieldId?
  | _ => none

def kind? : Edit → Option TypeKind
  | addField .. => some .object
  | addEnumValue .. | deleteEnumValue .. => some .enumeration
  | edit => edit.fieldId?.map fun _ => .object

def argumentKeys : Edit → List Text
  | setDirective _ directive => directive.arguments.entries.map Prod.fst
  | _ => []

end Edit

namespace Schema

def typeFault? (schema : Schema) (typeId : TypeId) : Option SchemaError :=
  if schema.types.any fun decl => decl.id = typeId then none else some (.unknownType typeId.text)

def kindFault? (schema : Schema) (typeId : TypeId) (kind : TypeKind) : Option SchemaError :=
  (schema.type? typeId).bind fun decl =>
    if decl.kind = kind then none else some (.kindMismatch decl.name kind)

def fieldFault? (schema : Schema) (typeId : TypeId) (fieldId : FieldId) : Option SchemaError :=
  (schema.type? typeId).bind fun decl =>
    if decl.fields.any fun field => field.id = fieldId then none
    else some (.unknownField decl.name.text fieldId.text)

/-- A new name that another type, or another field of the type, carries; a value that is not there. -/
def contentFault? (schema : Schema) : Edit → Option SchemaError
  | .renameType typeId newName =>
      if (schema.types.eraseP fun decl => decl.id = typeId).any fun decl => decl.name = newName then
        some (.nameConflict newName none)
      else none
  | .renameField typeId fieldId newName =>
      (schema.type? typeId).bind fun decl =>
        if (decl.fields.eraseP fun field => field.id = fieldId).any fun field =>
          field.name = newName then some (.nameConflict newName (some decl.name))
        else none
  | .deleteEnumValue typeId value =>
      (schema.type? typeId).bind fun decl =>
        if value ∈ decl.values then none else some (.unknownEnumValue decl.name value)
  | _ => none

def fault? (schema : Schema) (edit : Edit) : Check → Option SchemaError
  | .argumentKeys => (edit.argumentKeys.find? fun key => !isIdentifier key).map .invalidName
  | .typeExists => edit.typeId?.bind schema.typeFault?
  | .targetExists => edit.targetId?.bind schema.typeFault?
  | .typeKind => edit.typeId?.bind fun typeId => edit.kind?.bind (schema.kindFault? typeId)
  | .fieldExists => edit.typeId?.bind fun typeId => edit.fieldId?.bind (schema.fieldFault? typeId)
  | .targetKind => edit.targetId?.bind (schema.kindFault? · .object)
  | .content => schema.contentFault? edit

end Schema

def Except.refusal? {ε α : Type} : Except ε α → Option ε
  | .ok _ => none
  | .error error => some error

namespace Except

variable {ε α β : Type}

theorem refusal?_eq_some_iff {result : Except ε α} {error : ε} :
    Except.refusal? result = some error ↔ result = .error error := by
  cases result <;> simp [Except.refusal?]

/-- When the error of the rest does not depend on the value, it is the second choice. -/
theorem refusal?_bind {first : Except ε α} {next : α → Except ε β} {later : Option ε}
    (uniform : ∀ value, first = .ok value → Except.refusal? (next value) = later) :
    Except.refusal? (first >>= next) = (Except.refusal? first).or later := by
  cases first with
  | error error => rfl
  | ok value => exact uniform value rfl

theorem refusal?_bind_done {first : Except ε α} {next : α → Except ε β}
    (done : ∀ value, Except.refusal? (next value) = none) :
    Except.refusal? (first >>= next) = Except.refusal? first := by
  cases first with
  | error error => rfl
  | ok value => exact done value

end Except

namespace TypeDecl

variable {decl : TypeDecl}

theorem refusal?_requireFields : Except.refusal? decl.requireFields =
    if decl.kind = .object then none else some (.kindMismatch decl.name .object) := by
  rw [requireFields, kind]
  cases decl.body <;> rfl

theorem refusal?_requireValues : Except.refusal? decl.requireValues =
    if decl.kind = .enumeration then none else some (.kindMismatch decl.name .enumeration) := by
  rw [requireValues, kind]
  cases decl.body <;> rfl

theorem refusal?_requireField {fieldId : FieldId} : Except.refusal? (decl.requireField fieldId) =
    (if decl.kind = .object then none else some (.kindMismatch decl.name .object)).or
      (if decl.fields.any fun field => field.id = fieldId then none
      else some (.unknownField decl.name.text fieldId.text)) := by
  rw [requireField, ← refusal?_requireFields]
  refine Except.refusal?_bind fun fields isObject => ?_
  rw [TypeDecl.fields, requireFields_eq_ok_iff.mp isObject, Body.fields]
  rw [← List.isSome_find?]
  cases fields.find? fun field => field.id = fieldId <;> rfl

end TypeDecl

namespace Schema

variable {schema : Schema} {typeId : TypeId} {fieldId : FieldId} {decl : TypeDecl} {α : Type}
  {later : Option SchemaError}

theorem refusal?_requireType :
    Except.refusal? (schema.requireType typeId) = schema.typeFault? typeId := by
  rw [requireType, type?, typeFault?]
  rw [← List.isSome_find?]
  cases schema.types.find? fun decl => decl.id = typeId <;> rfl

theorem refusal?_withFields {next : TypeDecl → List FieldDecl → Except SchemaError α}
    (uniform : ∀ decl fields, schema.requireType typeId = .ok decl →
      Except.refusal? (next decl fields) = later) :
    Except.refusal? (do
      let decl ← schema.requireType typeId
      let fields ← decl.requireFields
      next decl fields) =
      (schema.typeFault? typeId).or ((schema.kindFault? typeId .object).or later) := by
  rw [← refusal?_requireType]
  refine Except.refusal?_bind fun decl found => ?_
  rw [kindFault?, type?, requireType_eq_ok_iff.mp found, Option.bind_some,
    ← TypeDecl.refusal?_requireFields]
  exact Except.refusal?_bind fun fields _ => uniform decl fields found

theorem refusal?_withValues {next : TypeDecl → List Name → Except SchemaError α}
    (uniform : ∀ decl values, schema.requireType typeId = .ok decl →
      decl.requireValues = .ok values → Except.refusal? (next decl values) = later) :
    Except.refusal? (do
      let decl ← schema.requireType typeId
      let values ← decl.requireValues
      next decl values) =
      (schema.typeFault? typeId).or ((schema.kindFault? typeId .enumeration).or later) := by
  rw [← refusal?_requireType]
  refine Except.refusal?_bind fun decl found => ?_
  rw [kindFault?, type?, requireType_eq_ok_iff.mp found, Option.bind_some,
    ← TypeDecl.refusal?_requireValues]
  exact Except.refusal?_bind fun values isEnum => uniform decl values found isEnum

theorem refusal?_withField {next : TypeDecl → FieldDecl → Except SchemaError α}
    (uniform : ∀ decl field, schema.requireType typeId = .ok decl →
      Except.refusal? (next decl field) = later) :
    Except.refusal? (do
      let decl ← schema.requireType typeId
      let field ← decl.requireField fieldId
      next decl field) =
      (schema.typeFault? typeId).or ((schema.kindFault? typeId .object).or
        ((schema.fieldFault? typeId fieldId).or later)) := by
  rw [← refusal?_requireType]
  refine Except.refusal?_bind fun decl found => ?_
  rw [kindFault?, fieldFault?, type?, requireType_eq_ok_iff.mp found, Option.bind_some,
    Option.bind_some, ← Option.or_assoc, ← TypeDecl.refusal?_requireField]
  exact Except.refusal?_bind fun field _ => uniform decl field found

theorem refusal?_renameType {newName : Name} :
    Except.refusal? (schema.renameType typeId newName) =
      (schema.typeFault? typeId).or (schema.contentFault? (.renameType typeId newName)) := by
  rw [renameType, ← refusal?_requireType, contentFault?]
  refine Except.refusal?_bind fun decl _ => ?_
  split <;> rfl

theorem refusal?_deleteType :
    Except.refusal? (schema.deleteType typeId) = (schema.typeFault? typeId).or none := by
  rw [deleteType, ← refusal?_requireType]
  exact Except.refusal?_bind fun _ _ => rfl

theorem refusal?_addField {fresh : FreshIds} {baseName : Name} :
    Except.refusal? (schema.addField fresh typeId baseName) =
      (schema.typeFault? typeId).or ((schema.kindFault? typeId .object).or none) :=
  refusal?_withFields fun _ _ _ => rfl

theorem refusal?_changeField {f : FieldDecl → FieldDecl} :
    Except.refusal? (schema.changeField typeId fieldId f) =
      (schema.typeFault? typeId).or ((schema.kindFault? typeId .object).or
        ((schema.fieldFault? typeId fieldId).or none)) :=
  refusal?_withField fun _ _ _ => rfl

theorem refusal?_renameField {newName : Name} :
    Except.refusal? (schema.renameField typeId fieldId newName) =
      (schema.typeFault? typeId).or ((schema.kindFault? typeId .object).or
        ((schema.fieldFault? typeId fieldId).or
          (schema.contentFault? (.renameField typeId fieldId newName)))) := by
  refine refusal?_withField fun decl _ found => ?_
  rw [contentFault?, type?, requireType_eq_ok_iff.mp found, Option.bind_some]
  split <;> rfl

theorem refusal?_deleteField :
    Except.refusal? (schema.deleteField typeId fieldId) =
      (schema.typeFault? typeId).or ((schema.kindFault? typeId .object).or
        ((schema.fieldFault? typeId fieldId).or none)) :=
  refusal?_withField fun _ _ _ => rfl

theorem refusal?_moveField {source target : TypeId} {before : Option FieldId} :
    Except.refusal? (schema.moveField source fieldId target before) =
      (schema.typeFault? source).or ((schema.typeFault? target).or
        ((schema.kindFault? source .object).or ((schema.fieldFault? source fieldId).or
          ((schema.kindFault? target .object).or none)))) := by
  rw [moveField, ← refusal?_requireType]
  refine Except.refusal?_bind fun sourceDecl sourceFound => ?_
  rw [← refusal?_requireType]
  refine Except.refusal?_bind fun targetDecl targetFound => ?_
  rw [kindFault?, fieldFault?, kindFault?, type?, type?, requireType_eq_ok_iff.mp sourceFound,
    requireType_eq_ok_iff.mp targetFound, Option.bind_some, Option.bind_some, Option.bind_some,
    ← Option.or_assoc, ← TypeDecl.refusal?_requireField]
  refine Except.refusal?_bind fun field _ => ?_
  rw [← TypeDecl.refusal?_requireFields]
  refine Except.refusal?_bind fun fields _ => ?_
  dsimp only
  split
  · split <;> rfl
  · rfl

theorem refusal?_addEnumValue {baseValue : Name} :
    Except.refusal? (schema.addEnumValue typeId baseValue) =
      (schema.typeFault? typeId).or ((schema.kindFault? typeId .enumeration).or none) :=
  refusal?_withValues fun _ _ _ _ => rfl

theorem refusal?_deleteEnumValue {value : Name} :
    Except.refusal? (schema.deleteEnumValue typeId value) =
      (schema.typeFault? typeId).or ((schema.kindFault? typeId .enumeration).or
        (schema.contentFault? (.deleteEnumValue typeId value))) := by
  refine refusal?_withValues fun decl values found isEnum => ?_
  rw [contentFault?, type?, requireType_eq_ok_iff.mp found, Option.bind_some, TypeDecl.values,
    TypeDecl.requireValues_eq_ok_iff.mp isEnum, Body.values]
  split <;> rfl

def targetFault? (schema : Schema) : EditTarget → Option SchemaError
  | .type typeId => (schema.typeFault? typeId).or none
  | .field typeId fieldId => (schema.typeFault? typeId).or ((schema.kindFault? typeId .object).or
      ((schema.fieldFault? typeId fieldId).or none))

theorem refusal?_setDescription {target : EditTarget} {description : Option Text} :
    Except.refusal? (schema.setDescription target description) = schema.targetFault? target := by
  cases target with
  | type typeId =>
      rw [targetFault?, ← refusal?_requireType]
      exact Except.refusal?_bind fun _ _ => rfl
  | field typeId fieldId => exact refusal?_changeField

theorem refusal?_requireDirectives {target : EditTarget} :
    Except.refusal? (schema.requireDirectives target) = schema.targetFault? target := by
  cases target with
  | type typeId =>
      rw [targetFault?, ← refusal?_requireType]
      exact Except.refusal?_bind fun _ _ => rfl
  | field typeId fieldId => exact refusal?_withField fun _ _ _ => rfl

theorem refusal?_removeDirective {target : EditTarget} {name : Name} :
    Except.refusal? (schema.removeDirective target name) = schema.targetFault? target :=
  (Except.refusal?_bind_done fun _ => rfl).trans refusal?_requireDirectives

theorem refusal?_setDirective {target : EditTarget} {directive : Directive} :
    Except.refusal? (schema.setDirective target directive) =
      (((directive.arguments.entries.map Prod.fst).find? fun key => !isIdentifier key).map
        SchemaError.invalidName).or (schema.targetFault? target) := by
  rw [setDirective, List.find?_map]
  simp only [Function.comp_def]
  cases directive.arguments.entries.find? fun entry => !isIdentifier entry.1 with
  | some entry => rfl
  | none =>
      rw [← refusal?_requireDirectives]
      dsimp only
      split
      · exact Except.refusal?_bind_done fun _ => rfl
      · exact Except.refusal?_bind_done fun _ => rfl

theorem Check.findSome?_inOrder {ε : Type} (f : Check → Option ε) :
    Check.inOrder.findSome? f = (f .argumentKeys).or ((f .typeExists).or ((f .targetExists).or
      ((f .typeKind).or ((f .fieldExists).or ((f .targetKind).or (f .content)))))) := by
  simp only [Check.inOrder, List.findSome?]
  cases f .argumentKeys <;> cases f .typeExists <;> cases f .targetExists <;> cases f .typeKind <;>
    cases f .fieldExists <;> cases f .targetKind <;> cases f .content <;> rfl

theorem refusal?_apply (schema : Schema) (fresh : FreshIds) (edit : Edit) :
    Except.refusal? (schema.apply fresh edit) = Check.inOrder.findSome? (schema.fault? edit) := by
  rw [Check.findSome?_inOrder]
  -- Both sides are one chain of faults; the checks that an edit does not need are `none` in it.
  cases edit with
  | addType kind baseName => rfl
  | renameType typeId newName =>
      exact (Except.refusal?_bind_done fun _ => rfl).trans refusal?_renameType
  | deleteType typeId =>
      exact (Except.refusal?_bind_done fun _ => rfl).trans refusal?_deleteType
  | addField typeId baseName =>
      exact (Except.refusal?_bind_done fun _ => rfl).trans refusal?_addField
  | renameField typeId fieldId newName =>
      exact (Except.refusal?_bind_done fun _ => rfl).trans refusal?_renameField
  | deleteField typeId fieldId =>
      exact (Except.refusal?_bind_done fun _ => rfl).trans refusal?_deleteField
  | moveField source fieldId target before =>
      exact (Except.refusal?_bind_done fun _ => rfl).trans refusal?_moveField
  | setFieldType typeId fieldId typeName =>
      exact (Except.refusal?_bind_done fun _ => rfl).trans refusal?_changeField
  | setFieldList typeId fieldId isList =>
      exact (Except.refusal?_bind_done fun _ => rfl).trans refusal?_changeField
  | setFieldRequired typeId fieldId isRequired =>
      exact (Except.refusal?_bind_done fun _ => rfl).trans refusal?_changeField
  | setDescription target description =>
      refine (Except.refusal?_bind_done fun _ => rfl).trans (refusal?_setDescription.trans ?_)
      cases target <;> rfl
  | addEnumValue typeId baseValue =>
      exact (Except.refusal?_bind_done fun _ => rfl).trans refusal?_addEnumValue
  | deleteEnumValue typeId value =>
      exact (Except.refusal?_bind_done fun _ => rfl).trans refusal?_deleteEnumValue
  | setDirective target directive =>
      refine (Except.refusal?_bind_done fun _ => rfl).trans (refusal?_setDirective.trans ?_)
      cases target <;> rfl
  | removeDirective target name =>
      refine (Except.refusal?_bind_done fun _ => rfl).trans (refusal?_removeDirective.trans ?_)
      cases target <;> rfl
  | setAccessScope target scope =>
      refine (Except.refusal?_bind_done fun _ => rfl).trans (refusal?_setDirective.trans ?_)
      cases target <;> rfl

theorem apply_eq_error_iff {schema : Schema} {fresh : FreshIds} {edit : Edit}
    {error : SchemaError} : schema.apply fresh edit = .error error ↔
      Check.inOrder.findSome? (schema.fault? edit) = some error := by
  rw [← refusal?_apply schema fresh, Except.refusal?_eq_some_iff]

theorem exists_apply_eq_error_iff {schema : Schema} {fresh : FreshIds} {edit : Edit} :
    (∃ error, schema.apply fresh edit = .error error) ↔
      ∃ check error, schema.fault? edit check = some error := by
  simp only [apply_eq_error_iff]
  constructor
  · rintro ⟨error, first⟩
    obtain ⟨check, -, failed⟩ := List.exists_of_findSome?_eq_some first
    exact ⟨check, error, failed⟩
  · rintro ⟨check, error, failed⟩
    have failing : (Check.inOrder.findSome? (schema.fault? edit)).isSome = true :=
      List.findSome?_isSome_iff.mpr ⟨check, check.mem_inOrder, by rw [failed]; rfl⟩
    exact Option.isSome_iff_exists.mp failing

/-- An edit is refused exactly when one of its checks fails.  The error is that of the first check that
fails, and the schema that was edited in place is the one from before. -/
theorem refused_iff_fault (schema : Schema) (fresh : FreshIds) (edit : Edit) :
    ((∃ error, schema.apply fresh edit = .error error) ↔
      ∃ check error, schema.fault? edit check = some error) ∧
    (∀ error, schema.apply fresh edit = .error error ↔
      Check.inOrder.findSome? (schema.fault? edit) = some error) ∧
    ∀ error after, (edit.inPlace fresh).run schema = .error error after ↔
      schema.apply fresh edit = .error error ∧ after = schema :=
  ⟨exists_apply_eq_error_iff, fun _ => apply_eq_error_iff, fun _ _ =>
    Edit.run_inPlace_eq_error_iff⟩

/-- A key that is no identifier comes before a type that is not there. -/
example : Schema.apply {} ⟨Id.ofNat 0, Id.ofNat 0⟩ (.setDirective (.type (Id.ofNat 1))
    { name := Name.literal "a", arguments := Arguments.empty.insert "b c".toList [] }) =
      .error (.invalidName "b c".toList) := by
  decide

end Schema

end SdlWorkbench
