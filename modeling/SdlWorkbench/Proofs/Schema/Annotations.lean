import SdlWorkbench.Proofs.Schema.Operations
/-!
Annotations: the description and the directives of a type or a field.

Whatever an edit does, an annotation of the new schema is an empty one, or it comes from an annotation
of the old schema by at most one change.  So a property of annotations that each change keeps is kept by
every edit.
-/

namespace SdlWorkbench

/-- A property of descriptions with directives that holds of new types and fields and that every
change keeps. -/
structure AnnotationInvariant (holds : Option Text → List Directive → Prop) : Prop where
  empty : holds none []
  describe : ∀ {description directives}, holds description directives → ∀ text : Option Text,
    holds (text.filter fun text => !text.isBlank) directives
  remove : ∀ {description directives}, holds description directives → ∀ name : Name,
    holds description (directives.filter fun directive => directive.name ≠ name)
  place : ∀ {description directives}, holds description directives → ∀ new : Directive,
    (∀ entry ∈ new.arguments.entries, isIdentifier entry.1 = true) →
      Schema.clearsAccessScope new = false →
        holds description (Schema.placeDirective new directives)

variable {holds : Option Text → List Directive → Prop}

def FieldDecl.Annotated (holds : Option Text → List Directive → Prop) (field : FieldDecl) : Prop :=
  holds field.description field.directives

def TypeDecl.Annotated (holds : Option Text → List Directive → Prop) (decl : TypeDecl) : Prop :=
  holds decl.description decl.directives ∧ ∀ field ∈ decl.fields, field.Annotated holds

def Schema.Annotated (holds : Option Text → List Directive → Prop) (schema : Schema) : Prop :=
  ∀ decl ∈ schema.types, decl.Annotated holds

theorem Schema.Annotated.imp {schema : Schema} (annotated : schema.Annotated holds)
    {weaker : Option Text → List Directive → Prop}
    (implies : ∀ description directives, holds description directives →
      weaker description directives) : schema.Annotated weaker := by
  intro decl member
  obtain ⟨own, fields⟩ := annotated decl member
  exact ⟨implies _ _ own, fun field among => implies _ _ (fields field among)⟩

theorem forall_mem_updateFirst {α : Type} {good : α → Prop} {p : α → Bool} {f : α → α}
    (keeps : ∀ item, good item → good (f item)) {items : List α}
    (each : ∀ item ∈ items, good item) : ∀ item ∈ updateFirst p f items, good item := by
  induction items with
  | nil => exact each
  | cons first rest ih =>
      rw [List.forall_mem_cons] at each
      rw [updateFirst]
      split
      · exact List.forall_mem_cons.mpr ⟨keeps first each.1, each.2⟩
      · exact List.forall_mem_cons.mpr ⟨each.1, ih each.2⟩

theorem forall_mem_insertBefore {α : Type} {good : α → Prop} {p : α → Bool} {new : α}
    (newGood : good new) {items : List α} (each : ∀ item ∈ items, good item) :
    ∀ item ∈ insertBefore p new items, good item := by
  induction items with
  | nil => exact List.forall_mem_singleton.mpr newGood
  | cons first rest ih =>
      rw [List.forall_mem_cons] at each
      rw [insertBefore]
      split
      · exact List.forall_mem_cons.mpr ⟨newGood, List.forall_mem_cons.mpr each⟩
      · exact List.forall_mem_cons.mpr ⟨each.1, ih each.2⟩

namespace TypeDecl

theorem Annotated.mapFields {decl : TypeDecl} (annotated : decl.Annotated holds)
    {f : List FieldDecl → List FieldDecl}
    (keeps : ∀ fields : List FieldDecl, (∀ field ∈ fields, field.Annotated holds) →
      ∀ field ∈ f fields, field.Annotated holds) : (decl.mapFields f).Annotated holds := by
  refine ⟨annotated.1, ?_⟩
  have fieldsAnnotated := annotated.2
  rw [TypeDecl.fields] at fieldsAnnotated
  rw [TypeDecl.fields, TypeDecl.mapFields]
  cases bodyEq : decl.body with
  | object fields =>
      rw [bodyEq] at fieldsAnnotated
      exact keeps fields fieldsAnnotated
  | enumeration values =>
      intro field impossible
      cases impossible

theorem Annotated.mapValues {decl : TypeDecl} (annotated : decl.Annotated holds)
    (f : List Name → List Name) : (decl.mapValues f).Annotated holds := by
  refine ⟨annotated.1, ?_⟩
  have fieldsAnnotated := annotated.2
  rw [TypeDecl.fields] at fieldsAnnotated
  rw [TypeDecl.fields, TypeDecl.mapValues]
  cases bodyEq : decl.body with
  | object fields =>
      rw [bodyEq] at fieldsAnnotated
      exact fieldsAnnotated
  | enumeration values =>
      intro field impossible
      cases impossible

theorem Annotated.updateField {decl : TypeDecl} (annotated : decl.Annotated holds)
    (fieldId : FieldId) {f : FieldDecl → FieldDecl}
    (keeps : ∀ field : FieldDecl, field.Annotated holds → (f field).Annotated holds) :
    (decl.updateField fieldId f).Annotated holds :=
  annotated.mapFields fun _ each => forall_mem_updateFirst keeps each

theorem Annotated.removeField {decl : TypeDecl} (annotated : decl.Annotated holds)
    (fieldId : FieldId) : (decl.removeField fieldId).Annotated holds :=
  annotated.mapFields fun _ each field member => each field (List.mem_of_mem_eraseP member)

end TypeDecl

namespace Schema

theorem Annotated.updateType {schema : Schema} (annotated : schema.Annotated holds)
    (typeId : TypeId) {f : TypeDecl → TypeDecl}
    (keeps : ∀ decl : TypeDecl, decl.Annotated holds → (f decl).Annotated holds) :
    (schema.updateType typeId f).Annotated holds :=
  forall_mem_updateFirst keeps annotated

theorem Annotated.updateField {schema : Schema} (annotated : schema.Annotated holds)
    (typeId : TypeId) (fieldId : FieldId) {f : FieldDecl → FieldDecl}
    (keeps : ∀ field : FieldDecl, field.Annotated holds → (f field).Annotated holds) :
    (schema.updateType typeId (TypeDecl.updateField fieldId f)).Annotated holds :=
  annotated.updateType typeId fun _ decl => decl.updateField fieldId keeps

theorem Annotated.changeField {schema after : Schema} (annotated : schema.Annotated holds)
    {typeId : TypeId} {fieldId : FieldId} {f : FieldDecl → FieldDecl}
    (done : schema.changeField typeId fieldId f = .ok after)
    (keeps : ∀ field : FieldDecl, field.Annotated holds → (f field).Annotated holds) :
    after.Annotated holds := by
  obtain ⟨_, -, _, -, written⟩ := changeField_eq_ok_iff.mp done
  rw [← written]
  exact annotated.updateField typeId fieldId keeps

theorem Annotated.addType {schema : Schema} (annotated : schema.Annotated holds)
    (invariant : AnnotationInvariant holds) (fresh : FreshIds) (kind : TypeKind) (baseName : Name) :
    (schema.addType fresh kind baseName).2.Annotated holds := by
  intro decl member
  rcases List.mem_append.mp member with old | new
  · exact annotated decl old
  · obtain rfl := List.mem_singleton.mp new
    constructor
    · exact invariant.empty
    · intro field impossible
      cases kind with
      | object => cases impossible
      | enumeration => cases impossible

theorem Annotated.moved {schema : Schema} (annotated : schema.Annotated holds) (source : TypeId)
    {field : FieldDecl} (fieldAnnotated : field.Annotated holds) (fieldId : FieldId)
    (target : TypeId) (targetFields : List FieldDecl) (before : Option FieldId) :
    (schema.moved source field fieldId target targetFields before).Annotated holds := by
  unfold Schema.moved
  dsimp only
  split
  · split
    · exact annotated
    · exact annotated.updateType source fun decl declAnnotated =>
        (declAnnotated.removeField fieldId).mapFields fun _ each =>
          forall_mem_insertBefore fieldAnnotated each
  · refine (annotated.updateType source fun decl declAnnotated =>
      declAnnotated.removeField fieldId).updateType target fun decl declAnnotated =>
        declAnnotated.mapFields fun _ each => forall_mem_insertBefore ?_ each
    exact fieldAnnotated

theorem Annotated.updateDirectives {schema : Schema} (annotated : schema.Annotated holds)
    (target : EditTarget) {f : List Directive → List Directive}
    (keeps : ∀ description directives, holds description directives →
      holds description (f directives)) : (schema.updateDirectives target f).Annotated holds := by
  cases target with
  | type typeId =>
      exact annotated.updateType typeId fun decl declAnnotated =>
        ⟨keeps _ _ declAnnotated.1, declAnnotated.2⟩
  | field typeId fieldId =>
      exact annotated.updateField typeId fieldId fun field => keeps _ _

theorem Annotated.describe {schema : Schema} (annotated : schema.Annotated holds)
    (invariant : AnnotationInvariant holds) (target : EditTarget) (description : Option Text) :
    (schema.describe (description.filter fun text => !text.isBlank) target).Annotated holds := by
  cases target with
  | type typeId =>
      exact annotated.updateType typeId fun decl declAnnotated =>
        ⟨invariant.describe declAnnotated.1 description, declAnnotated.2⟩
  | field typeId fieldId =>
      exact annotated.updateField typeId fieldId fun field fieldAnnotated =>
        invariant.describe fieldAnnotated description

theorem Annotated.setDirective {schema after : Schema} (annotated : schema.Annotated holds)
    (invariant : AnnotationInvariant holds) {target : EditTarget} {directive : Directive}
    (done : schema.setDirective target directive = .ok after) : after.Annotated holds := by
  obtain ⟨keysSound, directives, found, written⟩ := setDirective_eq_ok_iff.mp done
  rw [← written]
  refine annotated.updateDirectives target fun description directives each => ?_
  split
  · exact invariant.remove each directive.name
  · next kept => exact invariant.place each directive keysSound (eq_false_of_ne_true kept)

theorem Annotated.apply {schema after : Schema} (annotated : schema.Annotated holds)
    (invariant : AnnotationInvariant holds) {fresh : FreshIds} {edit : Edit}
    {outcome : EditOutcome} (done : schema.apply fresh edit = .ok (outcome, after)) :
    after.Annotated holds := by
  -- What remains of a request is the operation that it stands for.
  cases edit <;> simp only [Schema.apply, Except.bind_eq_ok_iff, Except.pure_eq_ok_iff,
    Except.ok.injEq, Prod.mk.injEq, Prod.exists] at done
  case addType kind baseName =>
    obtain ⟨-, rfl⟩ := done
    exact annotated.addType invariant fresh kind baseName
  case renameType typeId newName =>
    obtain ⟨_, renamed, -, rfl⟩ := done
    obtain ⟨_, -, -, rfl⟩ := renameType_eq_ok_iff.mp renamed
    exact annotated.updateType typeId fun _ declAnnotated => declAnnotated
  case deleteType typeId =>
    obtain ⟨_, _, deleted, -, rfl⟩ := done
    obtain ⟨-, rfl⟩ := deleteType_eq_ok_iff.mp deleted
    exact fun decl member => annotated decl (List.mem_of_mem_eraseP member)
  case addField typeId baseName =>
    obtain ⟨_, _, added, -, rfl⟩ := done
    obtain ⟨_, -, _, -, -, rfl⟩ := addField_eq_ok_iff.mp added
    exact annotated.updateType typeId fun _ declAnnotated => declAnnotated.mapFields
      fun _ each => List.forall_mem_append.mpr
        ⟨each, List.forall_mem_singleton.mpr invariant.empty⟩
  case renameField typeId fieldId newName =>
    obtain ⟨_, renamed, -, rfl⟩ := done
    obtain ⟨_, -, _, -, -, rfl⟩ := renameField_eq_ok_iff.mp renamed
    exact annotated.updateField typeId fieldId fun _ fieldAnnotated => fieldAnnotated
  case deleteField typeId fieldId =>
    obtain ⟨_, _, deleted, -, rfl⟩ := done
    obtain ⟨_, -, -, rfl⟩ := deleteField_eq_ok_iff.mp deleted
    exact annotated.updateType typeId fun _ declAnnotated => declAnnotated.removeField fieldId
  case moveField source fieldId target before =>
    obtain ⟨_, _, relocated, -, rfl⟩ := done
    obtain ⟨sourceDecl, sourceFound, _, -, field, fieldFound, targetFields, -, -, rfl⟩ :=
      moveField_eq_ok_iff.mp relocated
    have fieldAnnotated := (annotated sourceDecl (mem_types_of_requireType sourceFound)).2 field
      (TypeDecl.mem_fields_of_requireField fieldFound)
    exact annotated.moved source fieldAnnotated fieldId target targetFields before
  case setFieldType typeId fieldId typeName =>
    obtain ⟨_, changed, -, rfl⟩ := done
    exact annotated.changeField changed fun _ fieldAnnotated => fieldAnnotated
  case setFieldList typeId fieldId isList =>
    obtain ⟨_, changed, -, rfl⟩ := done
    exact annotated.changeField changed fun _ fieldAnnotated => fieldAnnotated
  case setFieldRequired typeId fieldId isRequired =>
    obtain ⟨_, changed, -, rfl⟩ := done
    exact annotated.changeField changed fun _ fieldAnnotated => fieldAnnotated
  case setDescription target description =>
    obtain ⟨_, described, -, rfl⟩ := done
    obtain rfl := setDescription_eq_ok described
    exact annotated.describe invariant target description
  case addEnumValue typeId baseValue =>
    obtain ⟨_, _, added, -, rfl⟩ := done
    obtain ⟨_, -, _, -, -, rfl⟩ := addEnumValue_eq_ok_iff.mp added
    exact annotated.updateType typeId fun _ declAnnotated => declAnnotated.mapValues _
  case deleteEnumValue typeId value =>
    obtain ⟨_, deleted, -, rfl⟩ := done
    obtain ⟨_, -, _, -, -, rfl⟩ := deleteEnumValue_eq_ok_iff.mp deleted
    exact annotated.updateType typeId fun _ declAnnotated => declAnnotated.mapValues _
  case setDirective target directive =>
    obtain ⟨_, placed, -, rfl⟩ := done
    exact annotated.setDirective invariant placed
  case removeDirective target name =>
    obtain ⟨_, _, removed, -, rfl⟩ := done
    obtain ⟨_, -, -, rfl⟩ := removeDirective_eq_ok_iff.mp removed
    exact annotated.updateDirectives target fun _ _ each => invariant.remove each name
  case setAccessScope target scope =>
    obtain ⟨_, placed, -, rfl⟩ := done
    exact annotated.setDirective invariant placed

end Schema

end SdlWorkbench
