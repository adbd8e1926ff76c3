import SdlWorkbench.Proofs.Schema.Writing
/-!
Edits that write while they run.

`Schema.apply` gives the schema after an edit, and none for an edit that is refused.  Here every edit
is a program over one schema that is changed in place: it looks up, writes and may look up again, and
what it has written stays written when a later step fails.  No step after the first write fails, so a
program ends with the schema of `Schema.apply`, and with the old one when the edit is refused.
-/

namespace SdlWorkbench

/-- A program over a schema that is changed in place.  What it wrote before it fails is not undone. -/
abbrev InPlace (α : Type) := EStateM SchemaError Schema α

namespace InPlace

variable {α β : Type}

def look (query : Schema → Except SchemaError α) : InPlace α := fun schema =>
  match query schema with
  | .ok value => .ok value schema
  | .error error => .error error schema

def renameType (typeId : TypeId) (newName : Name) : InPlace Unit := do
  let _ ← look (Schema.requireType · typeId)
  let others := (← get).types.eraseP fun decl => decl.id = typeId
  if others.any fun decl => decl.name = newName then
    throw (.nameConflict newName none)
  modify (Schema.updateType typeId fun decl => { decl with name := newName })

def deleteType (typeId : TypeId) : InPlace TypeDecl := do
  let decl ← look (Schema.requireType · typeId)
  modify fun schema => ⟨schema.types.eraseP fun other => other.id = typeId⟩
  return decl

/-- Writes the new type and reads its name back. -/
def addType (fresh : FreshIds) (kind : TypeKind) (baseName : Name) : InPlace Name := do
  modify fun schema => (schema.addType fresh kind baseName).2
  let decl ← look (Schema.requireType · fresh.type)
  return decl.name

def appendField (typeId : TypeId) (field : FieldDecl) : InPlace Name := do
  modify (Schema.updateType typeId (TypeDecl.mapFields (· ++ [field])))
  let decl ← look (Schema.requireType · typeId)
  let added ← look fun _ => decl.requireField field.id
  return added.name

def addField (fresh : FreshIds) (typeId : TypeId) (baseName : Name) : InPlace Name := do
  let decl ← look (Schema.requireType · typeId)
  let fields ← look fun _ => decl.requireFields
  let name := baseName.unused (fields.map fun field => field.name)
  appendField typeId { name := name, typeName := Schema.defaultFieldType, id := fresh.field }

def changeField (typeId : TypeId) (fieldId : FieldId) (f : FieldDecl → FieldDecl) :
    InPlace Unit := do
  let decl ← look (Schema.requireType · typeId)
  let _ ← look fun _ => decl.requireField fieldId
  modify (Schema.updateType typeId (TypeDecl.updateField fieldId f))

def renameField (typeId : TypeId) (fieldId : FieldId) (newName : Name) : InPlace Unit := do
  let decl ← look (Schema.requireType · typeId)
  let _ ← look fun _ => decl.requireField fieldId
  let others := decl.fields.eraseP fun field => field.id = fieldId
  if others.any fun field => field.name = newName then
    throw (.nameConflict newName (some decl.name))
  modify (Schema.updateType typeId
    (TypeDecl.updateField fieldId fun field => { field with name := newName }))

def deleteField (typeId : TypeId) (fieldId : FieldId) : InPlace FieldDecl := do
  let decl ← look (Schema.requireType · typeId)
  let field ← look fun _ => decl.requireField fieldId
  modify (Schema.updateType typeId (TypeDecl.removeField fieldId))
  return field

/-- Takes a field out of its type, looks the target up again and puts the field there. -/
def relocate (source : TypeId) (sourceDecl : TypeDecl) (field : FieldDecl) (fieldId : FieldId)
    (target : TypeId) (before : Option FieldId) : InPlace Name := do
  modify (Schema.updateType source (TypeDecl.removeField fieldId))
  let targetDecl ← look (Schema.requireType · target)
  let fields ← look fun _ => targetDecl.requireFields
  let name := if source = target then field.name
    else field.name.unused (fields.map fun other => other.name)
  let place := if source = target ∧ before = some fieldId then
      sourceDecl.fields.findIdx fun other => other.id = fieldId
    else fields.findIdx fun other => before = some other.id
  modify (Schema.updateType target
    (TypeDecl.mapFields fun fields => fields.insertIdx place { field with name := name }))
  return name

def moveField (source : TypeId) (fieldId : FieldId) (target : TypeId) (before : Option FieldId) :
    InPlace Name := do
  let sourceDecl ← look (Schema.requireType · source)
  let targetDecl ← look (Schema.requireType · target)
  let field ← look fun _ => sourceDecl.requireField fieldId
  let _ ← look fun _ => targetDecl.requireFields
  relocate source sourceDecl field fieldId target before

def addEnumValue (typeId : TypeId) (baseValue : Name) : InPlace Name := do
  let decl ← look (Schema.requireType · typeId)
  let values ← look fun _ => decl.requireValues
  let value := baseValue.unused values
  modify (Schema.updateType typeId (TypeDecl.mapValues (· ++ [value])))
  return value

def deleteEnumValue (typeId : TypeId) (value : Name) : InPlace Unit := do
  let decl ← look (Schema.requireType · typeId)
  let values ← look fun _ => decl.requireValues
  if value ∉ values then
    throw (.unknownEnumValue decl.name value)
  modify (Schema.updateType typeId (TypeDecl.mapValues (List.filter fun other => other ≠ value)))

def setDescription (target : EditTarget) (description : Option Text) : InPlace Unit := do
  let kept := description.filter fun text => !text.isBlank
  match target with
  | .type typeId =>
      let _ ← look (Schema.requireType · typeId)
      modify (Schema.updateType typeId fun decl => { decl with description := kept })
  | .field typeId fieldId =>
      changeField typeId fieldId fun field => { field with description := kept }

def changeDirectives (target : EditTarget) (f : List Directive → List Directive) :
    InPlace Unit := do
  let _ ← look (Schema.requireDirectives · target)
  modify (Schema.updateDirectives target f)

def setDirective (target : EditTarget) (directive : Directive) : InPlace Unit := do
  if let some entry := directive.arguments.entries.find? fun entry => !isIdentifier entry.1 then
    throw (.invalidName entry.1)
  if Schema.clearsAccessScope directive then
    changeDirectives target (List.filter fun other => other.name ≠ directive.name)
  else
    changeDirectives target (Schema.placeDirective directive)

end InPlace

def Edit.inPlace (fresh : FreshIds) : Edit → InPlace EditOutcome
  | addType kind baseName =>
      return .typeAdded fresh.type (← InPlace.addType fresh kind baseName)
  | renameType typeId newName => do
      InPlace.renameType typeId newName
      return .updated
  | deleteType typeId => return .typeDeleted (← InPlace.deleteType typeId)
  | addField typeId baseName =>
      return .fieldAdded fresh.field (← InPlace.addField fresh typeId baseName)
  | renameField typeId fieldId newName => do
      InPlace.renameField typeId fieldId newName
      return .updated
  | deleteField typeId fieldId => return .fieldDeleted (← InPlace.deleteField typeId fieldId)
  | moveField source fieldId target before =>
      return .fieldMoved fieldId (← InPlace.moveField source fieldId target before)
  | setFieldType typeId fieldId typeName => do
      InPlace.changeField typeId fieldId fun field => { field with typeName := typeName }
      return .updated
  | setFieldList typeId fieldId isList => do
      InPlace.changeField typeId fieldId fun field => { field with isList := isList }
      return .updated
  | setFieldRequired typeId fieldId isRequired => do
      InPlace.changeField typeId fieldId fun field => { field with isRequired := isRequired }
      return .updated
  | setDescription target description => do
      InPlace.setDescription target description
      return .updated
  | addEnumValue typeId baseValue =>
      return .enumValueAdded (← InPlace.addEnumValue typeId baseValue)
  | deleteEnumValue typeId value => do
      InPlace.deleteEnumValue typeId value
      return .updated
  | setDirective target directive => do
      InPlace.setDirective target directive
      return .updated
  | removeDirective target name => do
      InPlace.changeDirectives target (List.filter fun directive => directive.name ≠ name)
      return .updated
  | setAccessScope target scope => do
      InPlace.setDirective target (Family.accessScope.compose scope.trim)
      return .updated

namespace InPlace

variable {α β : Type} {schema : Schema}

theorem run_look_bind (query : Schema → Except SchemaError α) (next : α → InPlace β) :
    (look query >>= next).run schema =
      match query schema with
      | .ok value => (next value).run schema
      | .error error => .error error schema := by
  rw [EStateM.run_bind, EStateM.run, look]
  cases query schema <;> rfl

/-- The end of a program that checks all it needs before it writes. -/
def settled (schema : Schema) :
    Except SchemaError (α × Schema) → EStateM.Result SchemaError Schema α
  | .ok (value, after) => .ok value after
  | .error error => .error error schema

theorem run_renameType (typeId : TypeId) (newName : Name) :
    (renameType typeId newName).run schema =
      settled schema ((schema.renameType typeId newName).map (Prod.mk ())) := by
  rw [renameType, run_look_bind, Schema.renameType]
  cases schema.requireType typeId with
  | error error => rfl
  | ok decl =>
      rw [EStateM.run_bind, EStateM.run_get]
      dsimp only [bind, Except.bind]
      split <;> rfl

theorem run_deleteType (typeId : TypeId) :
    (deleteType typeId).run schema = settled schema (schema.deleteType typeId) := by
  rw [deleteType, run_look_bind, Schema.deleteType]
  cases schema.requireType typeId <;> rfl

theorem run_changeField (typeId : TypeId) (fieldId : FieldId) (f : FieldDecl → FieldDecl) :
    (changeField typeId fieldId f).run schema =
      settled schema ((schema.changeField typeId fieldId f).map (Prod.mk ())) := by
  simp only [changeField, Schema.changeField, run_look_bind]
  cases schema.requireType typeId with
  | error error => rfl
  | ok decl =>
      dsimp only [bind, Except.bind]
      cases decl.requireField fieldId <;> rfl

theorem run_renameField (typeId : TypeId) (fieldId : FieldId) (newName : Name) :
    (renameField typeId fieldId newName).run schema =
      settled schema ((schema.renameField typeId fieldId newName).map (Prod.mk ())) := by
  simp only [renameField, Schema.renameField, run_look_bind]
  cases schema.requireType typeId with
  | error error => rfl
  | ok decl =>
      dsimp only [bind, Except.bind]
      cases decl.requireField fieldId with
      | error error => rfl
      | ok field =>
          dsimp only
          split <;> rfl

theorem run_deleteField (typeId : TypeId) (fieldId : FieldId) :
    (deleteField typeId fieldId).run schema =
      settled schema (schema.deleteField typeId fieldId) := by
  simp only [deleteField, Schema.deleteField, run_look_bind]
  cases schema.requireType typeId with
  | error error => rfl
  | ok decl =>
      dsimp only [bind, Except.bind]
      cases decl.requireField fieldId <;> rfl

theorem run_addEnumValue (typeId : TypeId) (baseValue : Name) :
    (addEnumValue typeId baseValue).run schema =
      settled schema (schema.addEnumValue typeId baseValue) := by
  simp only [addEnumValue, Schema.addEnumValue, run_look_bind]
  cases schema.requireType typeId with
  | error error => rfl
  | ok decl =>
      dsimp only [bind, Except.bind]
      cases decl.requireValues <;> rfl

theorem run_deleteEnumValue (typeId : TypeId) (value : Name) :
    (deleteEnumValue typeId value).run schema =
      settled schema ((schema.deleteEnumValue typeId value).map (Prod.mk ())) := by
  simp only [deleteEnumValue, Schema.deleteEnumValue, run_look_bind]
  cases schema.requireType typeId with
  | error error => rfl
  | ok decl =>
      dsimp only [bind, Except.bind]
      cases decl.requireValues with
      | error error => rfl
      | ok values =>
          dsimp only
          by_cases member : value ∈ values
          · rw [if_pos member, if_neg (not_not_intro member)]
            rfl
          · rw [if_neg member, if_pos member]
            rfl

theorem run_setDescription (target : EditTarget) (description : Option Text) :
    (setDescription target description).run schema =
      settled schema ((schema.setDescription target description).map (Prod.mk ())) := by
  cases target with
  | type typeId =>
      simp only [setDescription, Schema.setDescription, run_look_bind]
      cases schema.requireType typeId <;> rfl
  | field typeId fieldId => exact run_changeField typeId fieldId _

theorem run_changeDirectives (target : EditTarget) (f : List Directive → List Directive) :
    (changeDirectives target f).run schema =
      settled schema ((schema.requireDirectives target).map fun _ =>
        ((), schema.updateDirectives target f)) := by
  rw [changeDirectives, run_look_bind]
  cases schema.requireDirectives target <;> rfl

theorem run_setDirective (target : EditTarget) (directive : Directive) :
    (setDirective target directive).run schema =
      settled schema ((schema.setDirective target directive).map (Prod.mk ())) := by
  rw [setDirective, Schema.setDirective]
  cases directive.arguments.entries.find? fun entry => !isIdentifier entry.1 with
  | some entry => rfl
  | none =>
      dsimp only
      by_cases clears : Schema.clearsAccessScope directive = true
      · simp only [if_pos clears, run_changeDirectives]
        cases schema.requireDirectives target <;> rfl
      · simp only [if_neg clears, run_changeDirectives]
        cases schema.requireDirectives target <;> rfl

/-! ### Reading back what was added -/

theorem requireType_addType (schema : Schema) (fresh : FreshIds) (kind : TypeKind)
    (baseName : Name) :
    ∃ decl, (schema.addType fresh kind baseName).2.requireType fresh.type = .ok decl ∧
      decl.name = ((schema.type? fresh.type).map fun old => old.name).getD
        (baseName.unused (schema.types.map fun other => other.name)) := by
  simp only [Schema.requireType_eq_ok_iff, Schema.addType, List.find?_append]
  rw [Schema.type?]
  cases schema.types.find? fun decl => decl.id = fresh.type with
  | some old => exact ⟨old, rfl, rfl⟩
  | none =>
      rw [Option.none_or]
      exact ⟨_, by rw [List.find?_cons_of_pos]; exact decide_eq_true rfl, rfl⟩

theorem run_addType (fresh : FreshIds) (kind : TypeKind) (baseName : Name) :
    (addType fresh kind baseName).run schema =
      .ok (((schema.type? fresh.type).map fun old => old.name).getD
        (baseName.unused (schema.types.map fun other => other.name)))
        (schema.addType fresh kind baseName).2 := by
  obtain ⟨decl, found, nameEq⟩ := requireType_addType schema fresh kind baseName
  rw [addType, EStateM.run_bind, EStateM.run_modify]
  dsimp only
  rw [run_look_bind, found, ← nameEq]
  rfl

theorem requireField_append (decl : TypeDecl) {fields : List FieldDecl}
    (isObject : decl.body = .object fields) (new : FieldDecl) :
    ∃ found, (decl.mapFields (· ++ [new])).requireField new.id = .ok found ∧
      found.name = ((decl.field? new.id).map fun old => old.name).getD new.name := by
  simp only [TypeDecl.requireField_eq_ok_iff, TypeDecl.mapFields, TypeDecl.field?, TypeDecl.fields,
    isObject, Body.mapFields, Body.fields]
  cases among : fields.find? fun field => field.id = new.id with
  | some old =>
      refine ⟨old, ⟨_, rfl, ?_⟩, rfl⟩
      rw [List.find?_append, among, Option.some_or]
  | none =>
      refine ⟨new, ⟨_, rfl, ?_⟩, rfl⟩
      rw [List.find?_append, among, Option.none_or]
      exact List.find?_cons_of_pos (decide_eq_true rfl)

theorem run_appendField {typeId : TypeId} {decl : TypeDecl} {fields : List FieldDecl}
    (typeFound : schema.requireType typeId = .ok decl) (isObject : decl.body = .object fields)
    (new : FieldDecl) :
    (appendField typeId new).run schema =
      .ok (((decl.field? new.id).map fun old => old.name).getD new.name)
        (schema.updateType typeId (TypeDecl.mapFields (· ++ [new]))) := by
  have readBack := Schema.requireType_updateType_self (f := TypeDecl.mapFields (· ++ [new]))
    (fun _ => rfl) typeFound
  obtain ⟨found, added, nameEq⟩ := requireField_append decl isObject new
  rw [appendField, EStateM.run_bind, EStateM.run_modify]
  dsimp only
  rw [run_look_bind, readBack]
  dsimp only
  rw [run_look_bind, added, ← nameEq]
  rfl

theorem run_addField (fresh : FreshIds) (typeId : TypeId) (baseName : Name) :
    (addField fresh typeId baseName).run schema =
      settled schema ((schema.addField fresh typeId baseName).map fun done =>
        ((((schema.type? typeId).bind fun decl => decl.field? fresh.field).map fun old =>
          old.name).getD done.1, done.2)) := by
  simp only [addField, Schema.addField, run_look_bind]
  cases typeFound : schema.requireType typeId with
  | error error => rfl
  | ok decl =>
      rw [Schema.type?, Schema.requireType_eq_ok_iff.mp typeFound, Option.bind_some]
      dsimp only [bind, Except.bind]
      cases fieldsFound : decl.requireFields with
      | error error => rfl
      | ok fields =>
          dsimp only
          rw [run_appendField typeFound (TypeDecl.requireFields_eq_ok_iff.mp fieldsFound)]
          rfl

variable {source target : TypeId} {sourceDecl targetDecl : TypeDecl} {field : FieldDecl}
  {fieldId : FieldId} {fields : List FieldDecl}

/-- Inserting at the place of the first element that satisfies a condition is inserting in front of
it. -/
theorem updateType_insertIdx (found : schema.requireType target = .ok targetDecl)
    (isObject : targetDecl.body = .object fields) (p : FieldDecl → Bool) (new : FieldDecl) :
    schema.updateType target (TypeDecl.mapFields fun now => now.insertIdx (fields.findIdx p) new) =
      schema.updateType target (TypeDecl.mapFields (insertBefore p new)) := by
  refine Schema.updateType_congr found ?_
  simp only [TypeDecl.mapFields, isObject, Body.mapFields, insertIdx_findIdx]

theorem updateType_reinsert (sourceFound : schema.requireType source = .ok sourceDecl)
    (fieldFound : sourceDecl.requireField fieldId = .ok field) :
    (schema.updateType source (TypeDecl.removeField fieldId)).updateType source
      (TypeDecl.mapFields fun rest =>
        rest.insertIdx (sourceDecl.fields.findIdx fun other => other.id = fieldId) field) =
      schema := by
  obtain ⟨fields, isObject, among⟩ := TypeDecl.requireField_eq_ok_iff.mp fieldFound
  rw [Schema.updateType_updateType (f := TypeDecl.removeField fieldId) fun _ => rfl]
  refine (Schema.updateType_congr (g := id) sourceFound ?_).trans Schema.updateType_id
  obtain ⟨⟨name, description, directives, body⟩, typeId⟩ := sourceDecl
  cases isObject
  simp only [Function.comp, TypeDecl.removeField, TypeDecl.mapFields, Body.mapFields,
    TypeDecl.fields, Body.fields, insertIdx_eraseP among, id]

/-- What is left of the source is looked up as its target when a field moves within one type, and
any other target is as it was. -/
theorem exists_requireType_removeField (fieldId : FieldId)
    (sourceFound : schema.requireType source = .ok sourceDecl)
    (targetFound : schema.requireType target = .ok targetDecl)
    (isObject : targetDecl.body = .object fields) :
    ∃ decl rest, (schema.updateType source (TypeDecl.removeField fieldId)).requireType target =
      .ok decl ∧ decl.body = .object rest ∧ (source ≠ target → rest = fields) := by
  by_cases within : source = target
  · subst within
    rw [sourceFound] at targetFound
    cases targetFound
    refine ⟨sourceDecl.removeField fieldId, fields.eraseP fun other => other.id = fieldId,
      Schema.requireType_updateType_self (f := TypeDecl.removeField fieldId) (fun _ => rfl)
        sourceFound, ?_, fun different => absurd rfl different⟩
    rw [TypeDecl.removeField, TypeDecl.mapFields, isObject, Body.mapFields]
  · refine ⟨targetDecl, fields, ?_, isObject, fun _ => rfl⟩
    rw [Schema.requireType_updateType_of_ne (f := TypeDecl.removeField fieldId) (fun _ => rfl)
      within, targetFound]

theorem run_relocate (sourceFound : schema.requireType source = .ok sourceDecl)
    (targetFound : schema.requireType target = .ok targetDecl)
    (fieldFound : sourceDecl.requireField fieldId = .ok field)
    (isObject : targetDecl.body = .object fields) (before : Option FieldId) :
    (relocate source sourceDecl field fieldId target before).run schema =
      .ok (if source = target then field.name else (Schema.renamedInto fields field).name)
        (schema.moved source field fieldId target fields before) := by
  obtain ⟨decl, rest, found, restObject, same⟩ :=
    exists_requireType_removeField fieldId sourceFound targetFound isObject
  rw [relocate, EStateM.run_bind, EStateM.run_modify]
  dsimp only
  rw [run_look_bind, found]
  dsimp only
  rw [run_look_bind, TypeDecl.requireFields_eq_ok_iff.mpr restObject]
  dsimp only
  rw [EStateM.run_bind, EStateM.run_modify]
  dsimp only
  rw [EStateM.run_pure, Schema.moved]
  -- Within one type the two writes are one, and a field that is to stand before itself goes back.
  by_cases within : source = target
  · subst within
    simp only [if_true, true_and]
    by_cases stays : before = some fieldId
    · simp only [if_pos stays]
      rw [updateType_reinsert sourceFound fieldFound]
    · simp only [if_neg stays]
      rw [updateType_insertIdx found restObject,
        Schema.updateType_updateType (f := TypeDecl.removeField fieldId) fun _ => rfl]
      rfl
  · obtain rfl := same within
    simp only [within, false_and, if_false]
    rw [updateType_insertIdx found restObject]
    rfl

theorem run_moveField (source : TypeId) (fieldId : FieldId) (target : TypeId)
    (before : Option FieldId) :
    (moveField source fieldId target before).run schema =
      settled schema (schema.moveField source fieldId target before) := by
  simp only [moveField, Schema.moveField, run_look_bind]
  cases sourceFound : schema.requireType source with
  | error error => rfl
  | ok sourceDecl =>
      dsimp only [bind, Except.bind]
      cases targetFound : schema.requireType target with
      | error error => rfl
      | ok targetDecl =>
          dsimp only
          cases fieldFound : sourceDecl.requireField fieldId with
          | error error => rfl
          | ok field =>
              dsimp only
              cases fieldsFound : targetDecl.requireFields with
              | error error => rfl
              | ok fields =>
                  dsimp only
                  rw [run_relocate sourceFound targetFound fieldFound
                    (TypeDecl.requireFields_eq_ok_iff.mp fieldsFound), Schema.moved]
                  split
                  · split <;> rfl
                  · rfl

end InPlace

/-- What an edit gives back when the names of new types and fields are read off the schema that was
written.  With an id that is in use already the name is that of the older type or field. -/
def Edit.readBack (schema : Schema) (fresh : FreshIds) : Edit → EditOutcome → EditOutcome
  | addType .., .typeAdded id name =>
      .typeAdded id (((schema.type? fresh.type).map fun old => old.name).getD name)
  | addField typeId _, .fieldAdded id name =>
      .fieldAdded id ((((schema.type? typeId).bind fun decl => decl.field? fresh.field).map
        fun old => old.name).getD name)
  | _, outcome => outcome

open InPlace

theorem Edit.run_inPlace (schema : Schema) (fresh : FreshIds) (edit : Edit) :
    (edit.inPlace fresh).run schema = settled schema ((schema.apply fresh edit).map fun done =>
      (edit.readBack schema fresh done.1, done.2)) := by
  cases edit with
  | addType kind baseName =>
      rw [inPlace, EStateM.run_bind, run_addType]
      rfl
  | renameType typeId newName =>
      rw [inPlace, EStateM.run_bind, run_renameType, Schema.apply]
      cases schema.renameType typeId newName <;> rfl
  | deleteType typeId =>
      rw [inPlace, EStateM.run_bind, run_deleteType, Schema.apply]
      cases schema.deleteType typeId <;> rfl
  | addField typeId baseName =>
      rw [inPlace, EStateM.run_bind, run_addField, Schema.apply]
      cases schema.addField fresh typeId baseName <;> rfl
  | renameField typeId fieldId newName =>
      rw [inPlace, EStateM.run_bind, run_renameField, Schema.apply]
      cases schema.renameField typeId fieldId newName <;> rfl
  | deleteField typeId fieldId =>
      rw [inPlace, EStateM.run_bind, run_deleteField, Schema.apply]
      cases schema.deleteField typeId fieldId <;> rfl
  | moveField source fieldId target before =>
      rw [inPlace, EStateM.run_bind, run_moveField, Schema.apply]
      cases schema.moveField source fieldId target before <;> rfl
  | setFieldType typeId fieldId typeName =>
      rw [inPlace, EStateM.run_bind, run_changeField, Schema.apply]
      cases schema.changeField typeId fieldId _ <;> rfl
  | setFieldList typeId fieldId isList =>
      rw [inPlace, EStateM.run_bind, run_changeField, Schema.apply]
      cases schema.changeField typeId fieldId _ <;> rfl
  | setFieldRequired typeId fieldId isRequired =>
      rw [inPlace, EStateM.run_bind, run_changeField, Schema.apply]
      cases schema.changeField typeId fieldId _ <;> rfl
  | setDescription target description =>
      rw [inPlace, EStateM.run_bind, run_setDescription, Schema.apply]
      cases schema.setDescription target description <;> rfl
  | addEnumValue typeId baseValue =>
      rw [inPlace, EStateM.run_bind, run_addEnumValue, Schema.apply]
      cases schema.addEnumValue typeId baseValue <;> rfl
  | deleteEnumValue typeId value =>
      rw [inPlace, EStateM.run_bind, run_deleteEnumValue, Schema.apply]
      cases schema.deleteEnumValue typeId value <;> rfl
  | setDirective target directive =>
      rw [inPlace, EStateM.run_bind, run_setDirective, Schema.apply]
      cases schema.setDirective target directive <;> rfl
  | removeDirective target name =>
      rw [inPlace, EStateM.run_bind, run_changeDirectives, Schema.apply, Schema.removeDirective]
      cases schema.requireDirectives target <;> rfl
  | setAccessScope target scope =>
      rw [inPlace, EStateM.run_bind, run_setDirective, Schema.apply, Schema.setAccessScope]
      cases schema.setDirective target (Family.accessScope.compose scope.trim) <;> rfl

theorem Edit.run_inPlace_eq_error_iff {schema after : Schema} {fresh : FreshIds} {edit : Edit}
    {error : SchemaError} : (edit.inPlace fresh).run schema = .error error after ↔
      schema.apply fresh edit = .error error ∧ after = schema := by
  rw [run_inPlace]
  cases schema.apply fresh edit with
  | error other => simp [settled, Except.map, eq_comm]
  | ok done => simp [settled, Except.map]

theorem Edit.run_inPlace_of_ok {schema after : Schema} {fresh : FreshIds} {edit : Edit}
    {outcome : EditOutcome} (done : schema.apply fresh edit = .ok (outcome, after)) :
    (edit.inPlace fresh).run schema = .ok (edit.readBack schema fresh outcome) after := by
  rw [run_inPlace, done]
  rfl

theorem Edit.readBack_eq {schema : Schema} {fresh : FreshIds} (lacks : schema.Lacks fresh)
    (edit : Edit) (outcome : EditOutcome) : edit.readBack schema fresh outcome = outcome := by
  have noType : schema.type? fresh.type = none := by
    rw [Schema.type?, List.find?_eq_none]
    intro decl member
    simpa using (lacks decl member).1
  have noField : ∀ typeId,
      (schema.type? typeId).bind (fun decl => decl.field? fresh.field) = none := by
    intro typeId
    rw [Option.bind_eq_none_iff]
    intro decl found
    rw [TypeDecl.field?, List.find?_eq_none]
    intro field member
    simpa using (lacks decl (List.mem_of_find?_eq_some found)).2 field member
  cases edit <;> cases outcome <;> simp [readBack, noType, noField]

end SdlWorkbench
