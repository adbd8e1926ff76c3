import SdlWorkbench.Proofs.Schema.Refusal
/-!
Attributes of types and fields, and the edits that set one.

An edit names at most one attribute of what it addresses.  Seven kinds of edits do nothing but write such
an attribute of a type or a field: when no check fails, what they leave is the old schema with that one
write.
-/

namespace SdlWorkbench

inductive Attribute where
  | name
  | typeName
  | isList
  | isRequired
  | description
  | directives
  | values
deriving DecidableEq

/-- A field in which an attribute does not count. -/
def FieldDecl.without (field : FieldDecl) : Option Attribute → FieldDecl
  | some .name => { field with name := Schema.defaultFieldType }
  | some .typeName => { field with typeName := Schema.defaultFieldType }
  | some .isList => { field with isList := false }
  | some .isRequired => { field with isRequired := false }
  | some .description => { field with description := none }
  | some .directives => { field with directives := [] }
  | _ => field

def TypeDecl.without (decl : TypeDecl) : Option Attribute → TypeDecl
  | some .name => { decl with name := Schema.defaultFieldType }
  | some .description => { decl with description := none }
  | some .directives => { decl with directives := [] }
  | some .values => decl.mapValues fun _ => []
  | _ => decl

namespace Edit

def attribute? : Edit → Option Attribute
  | addType .. | deleteType .. | addField .. | deleteField .. => none
  | renameType .. | renameField .. | moveField .. => some .name
  | setFieldType .. => some .typeName
  | setFieldList .. => some .isList
  | setFieldRequired .. => some .isRequired
  | setDescription .. => some .description
  | addEnumValue .. | deleteEnumValue .. => some .values
  | setDirective .. | removeDirective .. | setAccessScope .. => some .directives

/-- Whether an edit only sets an attribute, whatever else the schema holds. -/
def setsAttribute : Edit → Bool
  | setFieldType .. | setFieldList .. | setFieldRequired .. | setDescription .. | setDirective ..
  | removeDirective .. | setAccessScope .. => true
  | _ => false

end Edit

namespace Schema

/-- What setting a directive makes of a list of directives. -/
def withDirective (directive : Directive) : List Directive → List Directive :=
  if clearsAccessScope directive then List.filter fun other => other.name ≠ directive.name
  else placeDirective directive

theorem mem_placeDirective {new directive : Directive} {directives : List Directive}
    (member : directive ∈ placeDirective new directives) :
    directive = new ∨ directive ∈ directives := by
  induction directives with
  | nil => exact .inl (List.mem_singleton.mp member)
  | cons first rest ih =>
      rw [placeDirective] at member
      split at member
      · rcases List.mem_cons.mp member with isNew | kept
        · exact .inl isNew
        · exact .inr (List.mem_cons_of_mem first (List.mem_filter.mp kept).1)
      · rcases List.mem_cons.mp member with rfl | later
        · exact .inr List.mem_cons_self
        · exact (ih later).imp_right (List.mem_cons_of_mem first)

theorem forall_mem_placeDirective {good : Directive → Prop} {new : Directive}
    {directives : List Directive} (newGood : good new)
    (each : ∀ directive ∈ directives, good directive) :
    ∀ directive ∈ placeDirective new directives, good directive := by
  intro directive member
  rcases mem_placeDirective member with rfl | old
  · exact newGood
  · exact each directive old

theorem names_placeDirective_nodup {directives : List Directive}
    (namesDiffer : (directives.map fun directive => directive.name).Nodup) (new : Directive) :
    ((placeDirective new directives).map fun directive => directive.name).Nodup := by
  induction directives with
  | nil => exact List.nodup_cons.mpr ⟨List.not_mem_nil, List.nodup_nil⟩
  | cons first rest ih =>
      rw [List.map_cons, List.nodup_cons] at namesDiffer
      rw [placeDirective]
      by_cases same : first.name = new.name
      · rw [if_pos same, List.map_cons, List.nodup_cons]
        refine ⟨fun again => ?_, namesDiffer.2.sublist (List.filter_sublist.map _)⟩
        obtain ⟨other, kept, named⟩ := List.mem_map.mp again
        exact of_decide_eq_true (List.mem_filter.mp kept).2 named
      · rw [if_neg same, List.map_cons, List.nodup_cons]
        refine ⟨fun again => ?_, ih namesDiffer.2⟩
        obtain ⟨other, placed, named⟩ := List.mem_map.mp again
        rcases mem_placeDirective placed with rfl | old
        · exact same named.symm
        · exact namesDiffer.1 (named ▸ List.mem_map_of_mem old)

theorem placeDirective_placeDirective (new : Directive) (directives : List Directive) :
    placeDirective new (placeDirective new directives) = placeDirective new directives := by
  induction directives with
  | nil => simp [placeDirective]
  | cons first rest ih =>
      by_cases same : first.name = new.name
      · simp [placeDirective, same]
      · simp [placeDirective, same, ih]

theorem withDirective_withDirective (directive : Directive) (directives : List Directive) :
    withDirective directive (withDirective directive directives) =
      withDirective directive directives := by
  rw [withDirective]
  split
  · simp only [List.filter_filter, Bool.and_self]
  · exact placeDirective_placeDirective directive directives

end Schema

namespace Edit

/-- What an edit that sets an attribute makes of a description and of directives. -/
def annotate : Edit → Option Text × List Directive → Option Text × List Directive
  | setDescription _ description, (_, directives) =>
      (description.filter fun text => !text.isBlank, directives)
  | setDirective _ directive, (description, directives) =>
      (description, Schema.withDirective directive directives)
  | removeDirective _ name, (description, directives) =>
      (description, directives.filter fun directive => directive.name ≠ name)
  | setAccessScope _ scope, (description, directives) =>
      (description, Schema.withDirective (Family.accessScope.compose scope.trim) directives)
  | _, annotations => annotations

def writeField : Edit → FieldDecl → FieldDecl
  | setFieldType _ _ typeName, field => { field with typeName := typeName }
  | setFieldList _ _ isList, field => { field with isList := isList }
  | setFieldRequired _ _ isRequired, field => { field with isRequired := isRequired }
  | edit, field =>
      let (description, directives) := edit.annotate (field.description, field.directives)
      { field with description := description, directives := directives }

def writeType (edit : Edit) (decl : TypeDecl) : TypeDecl :=
  let (description, directives) := edit.annotate (decl.description, decl.directives)
  { decl with description := description, directives := directives }

def writeIn (edit : Edit) (decl : TypeDecl) : TypeDecl :=
  match edit.fieldId? with
  | none => edit.writeType decl
  | some fieldId => decl.updateField fieldId edit.writeField

def write (edit : Edit) (schema : Schema) : Schema :=
  match edit.typeId? with
  | none => schema
  | some typeId => schema.updateType typeId edit.writeIn

theorem writeIn_of_type {edit : Edit} (noField : edit.fieldId? = none) :
    edit.writeIn = edit.writeType := by
  funext decl
  rw [writeIn, noField]

theorem writeIn_of_field {edit : Edit} {fieldId : FieldId} (isField : edit.fieldId? = some fieldId) :
    edit.writeIn = TypeDecl.updateField fieldId edit.writeField := by
  funext decl
  rw [writeIn, isField]

theorem exists_typeId_of_setsAttribute {edit : Edit} (sets : edit.setsAttribute = true) :
    ∃ typeId, edit.typeId? = some typeId := by
  cases edit <;> cases sets <;> exact ⟨_, rfl⟩

theorem write_eq {edit : Edit} {typeId : TypeId} (addresses : edit.typeId? = some typeId)
    (schema : Schema) : edit.write schema = schema.updateType typeId edit.writeIn := by
  rw [write, addresses]

end Edit

namespace Schema

variable {schema after : Schema} {fresh : FreshIds} {edit : Edit} {outcome : EditOutcome}

/-- An edit that sets an attribute leaves the schema with its write. -/
theorem eq_write_of_apply (sets : edit.setsAttribute = true)
    (done : schema.apply fresh edit = .ok (outcome, after)) :
    outcome = .updated ∧ after = edit.write schema := by
  cases edit <;> simp only [Schema.apply, Except.bind_eq_ok_iff, Except.pure_eq_ok_iff,
    Except.ok.injEq, Prod.mk.injEq, Prod.exists] at done
  case setFieldType typeId fieldId typeName =>
    obtain ⟨_, changed, rfl, rfl⟩ := done
    obtain ⟨_, -, _, -, rfl⟩ := changeField_eq_ok_iff.mp changed
    exact ⟨rfl, rfl⟩
  case setFieldList typeId fieldId isList =>
    obtain ⟨_, changed, rfl, rfl⟩ := done
    obtain ⟨_, -, _, -, rfl⟩ := changeField_eq_ok_iff.mp changed
    exact ⟨rfl, rfl⟩
  case setFieldRequired typeId fieldId isRequired =>
    obtain ⟨_, changed, rfl, rfl⟩ := done
    obtain ⟨_, -, _, -, rfl⟩ := changeField_eq_ok_iff.mp changed
    exact ⟨rfl, rfl⟩
  case setDescription target description =>
    obtain ⟨_, described, rfl, rfl⟩ := done
    obtain rfl := setDescription_eq_ok described
    cases target <;> exact ⟨rfl, rfl⟩
  case setDirective target directive =>
    obtain ⟨_, placed, rfl, rfl⟩ := done
    obtain ⟨-, _, -, rfl⟩ := setDirective_eq_ok_iff.mp placed
    cases target <;> exact ⟨rfl, rfl⟩
  case removeDirective target name =>
    obtain ⟨_, _, removed, rfl, rfl⟩ := done
    obtain ⟨_, -, -, rfl⟩ := removeDirective_eq_ok_iff.mp removed
    cases target <;> exact ⟨rfl, rfl⟩
  case setAccessScope target scope =>
    obtain ⟨_, placed, rfl, rfl⟩ := done
    obtain ⟨-, _, -, rfl⟩ := setDirective_eq_ok_iff.mp placed
    cases target <;> exact ⟨rfl, rfl⟩
  all_goals cases sets

end Schema

end SdlWorkbench
