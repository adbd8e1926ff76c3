import SdlWorkbench.Schema.Apply
/-!
What it takes for an operation to succeed, and what it then writes.

Each operation looks up what it needs, one thing after the other, and writes once.  The lemmas here
list the lookups and the schema that is written, so no later proof unfolds an operation.
-/

namespace SdlWorkbench

theorem Except.bind_eq_ok_iff {ε α β : Type} {first : Except ε α} {next : α → Except ε β}
    {result : β} :
    (first >>= next) = .ok result ↔ ∃ value, first = .ok value ∧ next value = .ok result := by
  cases first <;> simp [bind, Except.bind]

theorem Except.pure_eq_ok_iff {ε α : Type} {value result : α} :
    (pure value : Except ε α) = .ok result ↔ value = result := by
  simp [pure, Except.pure]

theorem TypeDecl.requireFields_eq_ok_iff {decl : TypeDecl} {fields : List FieldDecl} :
    decl.requireFields = .ok fields ↔ decl.body = .object fields := by
  rw [TypeDecl.requireFields]
  cases decl.body with
  | object found => simp
  | enumeration values => simp

theorem TypeDecl.requireValues_eq_ok_iff {decl : TypeDecl} {values : List Name} :
    decl.requireValues = .ok values ↔ decl.body = .enumeration values := by
  rw [TypeDecl.requireValues]
  cases decl.body with
  | object fields => simp
  | enumeration found => simp

theorem TypeDecl.requireField_eq_ok_iff {decl : TypeDecl} {fieldId : FieldId}
    {field : FieldDecl} : decl.requireField fieldId = .ok field ↔
      ∃ fields, decl.body = .object fields ∧
        fields.find? (fun other => other.id = fieldId) = some field := by
  rw [TypeDecl.requireField, Except.bind_eq_ok_iff]
  constructor
  · rintro ⟨fields, isObject, found⟩
    refine ⟨fields, TypeDecl.requireFields_eq_ok_iff.mp isObject, ?_⟩
    split at found
    · next other same =>
        cases found
        exact same
    · cases found
  · rintro ⟨fields, isObject, found⟩
    refine ⟨fields, TypeDecl.requireFields_eq_ok_iff.mpr isObject, ?_⟩
    rw [found]

namespace Schema

theorem requireType_eq_ok_iff {schema : Schema} {typeId : TypeId} {decl : TypeDecl} :
    schema.requireType typeId = .ok decl ↔
      schema.types.find? (fun other => other.id = typeId) = some decl := by
  rw [requireType, type?]
  cases schema.types.find? fun other => other.id = typeId with
  | none => simp
  | some found => simp

theorem mem_types_of_requireType {schema : Schema} {typeId : TypeId} {decl : TypeDecl}
    (found : schema.requireType typeId = .ok decl) : decl ∈ schema.types :=
  List.mem_of_find?_eq_some (requireType_eq_ok_iff.mp found)

end Schema

theorem TypeDecl.mem_fields_of_requireField {decl : TypeDecl} {fieldId : FieldId}
    {field : FieldDecl} (found : decl.requireField fieldId = .ok field) : field ∈ decl.fields := by
  obtain ⟨fields, isObject, among⟩ := TypeDecl.requireField_eq_ok_iff.mp found
  rw [TypeDecl.fields, isObject]
  exact List.mem_of_find?_eq_some among

namespace Schema

variable {schema after : Schema} {typeId : TypeId} {fieldId : FieldId} {fresh : FreshIds}

theorem renameType_eq_ok_iff {newName : Name} : schema.renameType typeId newName = .ok after ↔
    ∃ decl, schema.requireType typeId = .ok decl ∧
      (schema.types.eraseP fun other => other.id = typeId).any (fun other => other.name = newName) =
        false ∧
      schema.updateType typeId (fun other => { other with name := newName }) = after := by
  simp only [renameType, Except.bind_eq_ok_iff]
  refine exists_congr fun decl => and_congr_right fun _ => ?_
  split
  · next taken => simp [taken]
  · next free => rw [Except.pure_eq_ok_iff, eq_false_of_ne_true free, and_iff_right rfl]

theorem deleteType_eq_ok_iff {decl : TypeDecl} : schema.deleteType typeId = .ok (decl, after) ↔
    schema.requireType typeId = .ok decl ∧
      ⟨schema.types.eraseP fun other => other.id = typeId⟩ = after := by
  simp only [deleteType, Except.bind_eq_ok_iff, Except.pure_eq_ok_iff, Prod.mk.injEq]
  constructor
  · rintro ⟨_, found, rfl, written⟩
    exact ⟨found, written⟩
  · rintro ⟨found, written⟩
    exact ⟨decl, found, rfl, written⟩

theorem changeField_eq_ok_iff {f : FieldDecl → FieldDecl} :
    schema.changeField typeId fieldId f = .ok after ↔
      ∃ decl, schema.requireType typeId = .ok decl ∧
        ∃ field, decl.requireField fieldId = .ok field ∧
          schema.updateType typeId (TypeDecl.updateField fieldId f) = after := by
  simp only [changeField, Except.bind_eq_ok_iff, Except.pure_eq_ok_iff]

theorem addField_eq_ok_iff {baseName name : Name} :
    schema.addField fresh typeId baseName = .ok (name, after) ↔
      ∃ decl, schema.requireType typeId = .ok decl ∧ ∃ fields, decl.body = .object fields ∧
        baseName.unused (fields.map fun field => field.name) = name ∧
        schema.updateType typeId (TypeDecl.mapFields
          (· ++ [{ name := name, typeName := defaultFieldType, id := fresh.field }])) = after := by
  simp only [addField, Except.bind_eq_ok_iff, Except.pure_eq_ok_iff, Prod.mk.injEq,
    TypeDecl.requireFields_eq_ok_iff]
  refine exists_congr fun decl => and_congr_right fun _ => exists_congr fun fields =>
    and_congr_right fun _ => and_congr_right fun named => ?_
  rw [named]

theorem renameField_eq_ok_iff {newName : Name} :
    schema.renameField typeId fieldId newName = .ok after ↔
      ∃ decl, schema.requireType typeId = .ok decl ∧
        ∃ field, decl.requireField fieldId = .ok field ∧
          (decl.fields.eraseP fun other => other.id = fieldId).any
            (fun other => other.name = newName) = false ∧
          schema.updateType typeId
            (TypeDecl.updateField fieldId fun other => { other with name := newName }) =
              after := by
  simp only [renameField, Except.bind_eq_ok_iff]
  refine exists_congr fun decl => and_congr_right fun _ => exists_congr fun field =>
    and_congr_right fun _ => ?_
  split
  · next taken => simp [taken]
  · next free => rw [Except.pure_eq_ok_iff, eq_false_of_ne_true free, and_iff_right rfl]

theorem deleteField_eq_ok_iff {field : FieldDecl} :
    schema.deleteField typeId fieldId = .ok (field, after) ↔
      ∃ decl, schema.requireType typeId = .ok decl ∧ decl.requireField fieldId = .ok field ∧
        schema.updateType typeId (TypeDecl.removeField fieldId) = after := by
  simp only [deleteField, Except.bind_eq_ok_iff, Except.pure_eq_ok_iff, Prod.mk.injEq]
  refine exists_congr fun decl => and_congr_right fun _ => ?_
  constructor
  · rintro ⟨_, found, rfl, written⟩
    exact ⟨found, written⟩
  · rintro ⟨found, written⟩
    exact ⟨field, found, rfl, written⟩

/-- A moved field with the name that it has in the fields of its target. -/
def renamedInto (fields : List FieldDecl) (field : FieldDecl) : FieldDecl :=
  { field with name := field.name.unused (fields.map fun other => other.name) }

def moved (schema : Schema) (source : TypeId) (field : FieldDecl) (fieldId : FieldId)
    (target : TypeId) (targetFields : List FieldDecl) (before : Option FieldId) : Schema :=
  let insert (moved : FieldDecl) : List FieldDecl → List FieldDecl :=
    insertBefore (fun other => before = some other.id) moved
  if source = target then
    if before = some fieldId then schema
    else schema.updateType source fun decl => (decl.removeField fieldId).mapFields (insert field)
  else
    (schema.updateType source (TypeDecl.removeField fieldId)).updateType target
      (TypeDecl.mapFields (insert (renamedInto targetFields field)))

theorem moveField_eq_ok_iff {source target : TypeId} {before : Option FieldId} {name : Name} :
    schema.moveField source fieldId target before = .ok (name, after) ↔
      ∃ sourceDecl, schema.requireType source = .ok sourceDecl ∧
        ∃ targetDecl, schema.requireType target = .ok targetDecl ∧
          ∃ field, sourceDecl.requireField fieldId = .ok field ∧
            ∃ targetFields, targetDecl.body = .object targetFields ∧
              (if source = target then field.name else (renamedInto targetFields field).name) =
                name ∧
              schema.moved source field fieldId target targetFields before = after := by
  simp only [moveField, Except.bind_eq_ok_iff, TypeDecl.requireFields_eq_ok_iff, moved]
  refine exists_congr fun sourceDecl => and_congr_right fun _ => exists_congr fun targetDecl =>
    and_congr_right fun _ => exists_congr fun field => and_congr_right fun _ =>
      exists_congr fun targetFields => and_congr_right fun _ => ?_
  split
  · split <;> simp [Except.pure_eq_ok_iff]
  · simp [Except.pure_eq_ok_iff, renamedInto]

theorem addEnumValue_eq_ok_iff {baseValue value : Name} :
    schema.addEnumValue typeId baseValue = .ok (value, after) ↔
      ∃ decl, schema.requireType typeId = .ok decl ∧ ∃ values, decl.body = .enumeration values ∧
        baseValue.unused values = value ∧
        schema.updateType typeId (TypeDecl.mapValues (· ++ [value])) = after := by
  simp only [addEnumValue, Except.bind_eq_ok_iff, Except.pure_eq_ok_iff, Prod.mk.injEq,
    TypeDecl.requireValues_eq_ok_iff]
  refine exists_congr fun decl => and_congr_right fun _ => exists_congr fun values =>
    and_congr_right fun _ => and_congr_right fun named => ?_
  rw [named]

theorem deleteEnumValue_eq_ok_iff {value : Name} :
    schema.deleteEnumValue typeId value = .ok after ↔
      ∃ decl, schema.requireType typeId = .ok decl ∧ ∃ values, decl.body = .enumeration values ∧
        value ∈ values ∧
        schema.updateType typeId
          (TypeDecl.mapValues (List.filter fun other => other ≠ value)) = after := by
  simp only [deleteEnumValue, Except.bind_eq_ok_iff, TypeDecl.requireValues_eq_ok_iff]
  refine exists_congr fun decl => and_congr_right fun _ => exists_congr fun values =>
    and_congr_right fun _ => ?_
  split
  · next member => simp [Except.pure_eq_ok_iff, member]
  · next absent => simp [absent]

def describe (schema : Schema) (description : Option Text) : EditTarget → Schema
  | .type typeId => schema.updateType typeId fun decl => { decl with description := description }
  | .field typeId fieldId =>
      schema.updateType typeId
        (TypeDecl.updateField fieldId fun field => { field with description := description })

theorem setDescription_eq_ok {target : EditTarget} {description : Option Text}
    (done : schema.setDescription target description = .ok after) :
    schema.describe (description.filter fun text => !text.isBlank) target = after := by
  cases target with
  | type typeId =>
      simp only [setDescription, Except.bind_eq_ok_iff, Except.pure_eq_ok_iff] at done
      obtain ⟨decl, found, written⟩ := done
      exact written
  | field typeId fieldId =>
      obtain ⟨decl, found, field, among, written⟩ := changeField_eq_ok_iff.mp done
      exact written

theorem removeDirective_eq_ok_iff {target : EditTarget} {name : Name} {removed : Bool} :
    schema.removeDirective target name = .ok (removed, after) ↔
      ∃ directives, schema.requireDirectives target = .ok directives ∧
        directives.any (fun directive => directive.name = name) = removed ∧
        schema.updateDirectives target (List.filter fun directive => directive.name ≠ name) =
          after := by
  simp only [removeDirective, Except.bind_eq_ok_iff, Except.pure_eq_ok_iff, Prod.mk.injEq]

theorem setDirective_eq_ok_iff {target : EditTarget} {directive : Directive} :
    schema.setDirective target directive = .ok after ↔
      (∀ entry ∈ directive.arguments.entries, isIdentifier entry.1 = true) ∧
        ∃ directives, schema.requireDirectives target = .ok directives ∧
          schema.updateDirectives target
            (if clearsAccessScope directive then
              List.filter fun other => other.name ≠ directive.name
            else placeDirective directive) = after := by
  rw [setDirective]
  split
  · next entry found =>
      have bad := List.find?_some found
      have member := List.mem_of_find?_eq_some found
      constructor
      · intro impossible
        cases impossible
      · rintro ⟨sound, -⟩
        rw [sound entry member] at bad
        cases bad
  · next keysSound =>
      rw [List.find?_eq_none] at keysSound
      have sound : ∀ entry ∈ directive.arguments.entries, isIdentifier entry.1 = true := by
        intro entry member
        simpa using keysSound entry member
      rw [and_iff_right sound, Except.bind_eq_ok_iff]
      refine exists_congr fun directives => and_congr_right fun _ => ?_
      split <;> rw [Except.pure_eq_ok_iff]

end Schema

end SdlWorkbench
