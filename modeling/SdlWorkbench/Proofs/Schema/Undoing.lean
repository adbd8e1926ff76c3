import SdlWorkbench.Proofs.Schema.Moves
/-!
Edits that take back what another has done.

What is added stands behind all the rest under an id or a value of its own, so a deletion finds it and
nothing else.  A field that is moved away under its name and then back, to stand before the field that
followed it, comes to its old place.
-/

namespace SdlWorkbench

section Lists

variable {α : Type} {p q : α → Bool} {new : α} {items : List α}

theorem eraseP_insertBefore (absent : ∀ item ∈ items, q item = false) (isNew : q new = true) :
    (insertBefore p new items).eraseP q = items := by
  induction items with
  | nil => exact List.eraseP_cons_of_pos isNew
  | cons first rest ih =>
      obtain ⟨here, later⟩ := List.forall_mem_cons.mp absent
      rw [insertBefore]
      split
      · exact List.eraseP_cons_of_pos isNew
      · rw [List.eraseP_cons_of_neg (by simp [here]), ih later]

theorem find?_insertBefore (absent : ∀ item ∈ items, q item = false) (isNew : q new = true) :
    (insertBefore p new items).find? q = some new := by
  induction items with
  | nil => exact List.find?_cons_of_pos isNew
  | cons first rest ih =>
      obtain ⟨here, later⟩ := List.forall_mem_cons.mp absent
      rw [insertBefore]
      split
      · exact List.find?_cons_of_pos isNew
      · rw [List.find?_cons_of_neg (by simp [here]), ih later]

theorem insertBefore_at_end (new : α) (items : List α) :
    insertBefore (fun _ => false) new items = items ++ [new] :=
  insertBefore_of_absent fun _ _ => rfl

theorem eraseP_append_singleton (absent : ∀ item ∈ items, q item = false) (isNew : q new = true) :
    (items ++ [new]).eraseP q = items := by
  rw [← insertBefore_at_end, eraseP_insertBefore absent isNew]

theorem find?_append_singleton (absent : ∀ item ∈ items, q item = false) (isNew : q new = true) :
    (items ++ [new]).find? q = some new := by
  rw [← insertBefore_at_end, find?_insertBefore absent isNew]

/-- An element is put back by naming the one that followed it. -/
theorem insertBefore_head? {β : Type} [DecidableEq β] {key : α → β} {front back : List α}
    (different : ((front ++ back).map key).Nodup) :
    insertBefore (fun other => back.head?.map key = some (key other)) new (front ++ back) =
      front ++ new :: back := by
  cases back with
  | nil =>
      rw [List.append_nil]
      exact insertBefore_of_absent fun _ _ => rfl
  | cons next rest =>
      rw [List.map_append, List.nodup_append] at different
      obtain ⟨-, -, apart⟩ := different
      refine insertBefore_append (fun other member => ?_) (decide_eq_true rfl)
      have another := apart (key other) (List.mem_map_of_mem member) (key next) (by simp)
      exact decide_eq_false fun same => another (Option.some.inj same).symm

end Lists

theorem Name.unused_of_not_mem {base : Name} {taken : List Name} (free : base ∉ taken) :
    base.unused taken = base := by
  rw [unused, if_neg free]

namespace Schema

variable {schema : Schema} {fresh : FreshIds} {decl : TypeDecl} {fields : List FieldDecl}
  {field : FieldDecl} {typeId : TypeId}

theorem requireType_of_mem (distinct : schema.IdsDistinct) (member : decl ∈ schema.types) :
    schema.requireType decl.id = .ok decl :=
  requireType_eq_ok_iff.mpr (type?_of_mem distinct member)

theorem updateType_restores {f g : TypeDecl → TypeDecl}
    (keeps : ∀ decl : TypeDecl, (f decl).id = decl.id)
    (found : schema.requireType typeId = .ok decl) (restores : g (f decl) = decl) :
    (schema.updateType typeId f).updateType typeId g = schema := by
  rw [updateType_updateType keeps, updateType_congr (g := id) found restores, updateType_id]

theorem mapFields_mapFields_of_object {f g : List FieldDecl → List FieldDecl}
    (isObject : decl.body = .object fields) (restores : g (f fields) = fields) :
    (decl.mapFields f).mapFields g = decl := by
  obtain ⟨⟨name, description, directives, body⟩, id⟩ := decl
  cases isObject
  simp only [TypeDecl.mapFields, Body.mapFields, restores]

theorem mapValues_mapValues_of_enumeration {f g : List Name → List Name} {values : List Name}
    (isEnumeration : decl.body = .enumeration values) (restores : g (f values) = values) :
    (decl.mapValues f).mapValues g = decl := by
  obtain ⟨⟨name, description, directives, body⟩, id⟩ := decl
  cases isEnumeration
  simp only [TypeDecl.mapValues, Body.mapValues, restores]

theorem body_mapFields {f : List FieldDecl → List FieldDecl} (isObject : decl.body = .object fields) :
    (decl.mapFields f).body = .object (f fields) := by
  rw [TypeDecl.mapFields, isObject]
  rfl

theorem requireField_of_body {fieldId : FieldId} (isObject : decl.body = .object fields)
    (among : fields.find? (fun other => other.id = fieldId) = some field) :
    decl.requireField fieldId = .ok field :=
  TypeDecl.requireField_eq_ok_iff.mpr ⟨fields, isObject, among⟩

theorem deleteType_addType (lacks : schema.Lacks fresh) {new : TypeDecl} (isNew : new.id = fresh.type) :
    deleteType ⟨schema.types ++ [new]⟩ fresh.type = .ok (new, schema) := by
  have absent : ∀ decl ∈ schema.types, decide (decl.id = fresh.type) = false :=
    fun decl member => decide_eq_false (lacks decl member).1
  refine deleteType_eq_ok_iff.mpr ⟨requireType_eq_ok_iff.mpr ?_, ?_⟩
  · exact find?_append_singleton absent (decide_eq_true isNew)
  · rw [eraseP_append_singleton absent (decide_eq_true isNew)]

theorem deleteField_appendField (lacks : schema.Lacks fresh)
    (found : schema.requireType typeId = .ok decl) (isObject : decl.body = .object fields)
    (isNew : field.id = fresh.field) :
    (schema.updateType typeId (TypeDecl.mapFields (· ++ [field]))).deleteField typeId fresh.field =
      .ok (field, schema) := by
  have absent : ∀ other ∈ fields, decide (other.id = fresh.field) = false := by
    intro other member
    have own : other ∈ decl.fields := by rwa [TypeDecl.fields, isObject]
    exact decide_eq_false ((lacks decl (mem_types_of_requireType found)).2 other own)
  have written := requireType_updateType_self (f := TypeDecl.mapFields (· ++ [field]))
    (fun _ => rfl) found
  refine deleteField_eq_ok_iff.mpr ⟨_, written, ?_, ?_⟩
  · exact requireField_of_body (body_mapFields isObject)
      (find?_append_singleton absent (decide_eq_true isNew))
  · exact updateType_restores (fun _ => rfl) found (mapFields_mapFields_of_object isObject
      (eraseP_append_singleton absent (decide_eq_true isNew)))

theorem deleteEnumValue_appendValue {values : List Name} {value : Name}
    (found : schema.requireType typeId = .ok decl) (isEnumeration : decl.body = .enumeration values)
    (isNew : value ∉ values) :
    (schema.updateType typeId (TypeDecl.mapValues (· ++ [value]))).deleteEnumValue typeId value =
      .ok schema := by
  have kept : (values ++ [value]).filter (fun other => other ≠ value) = values := by
    have others : values.filter (fun other => other ≠ value) = values :=
      List.filter_eq_self.mpr fun other member =>
        decide_eq_true fun same => isNew (same ▸ member)
    rw [List.filter_append, others, List.filter_cons_of_neg (by simp), List.filter_nil,
      List.append_nil]
  have written := requireType_updateType_self (f := TypeDecl.mapValues (· ++ [value]))
    (fun _ => rfl) found
  refine deleteEnumValue_eq_ok_iff.mpr ⟨_, written, values ++ [value], ?_, by simp, ?_⟩
  · rw [TypeDecl.mapValues, isEnumeration]
    rfl
  · exact updateType_restores (fun _ => rfl) found
      (mapValues_mapValues_of_enumeration isEnumeration kept)

variable {source target : TypeDecl} {front back targetFields : List FieldDecl}

theorem renamedInto_of_free (free : ∀ other ∈ fields, other.name ≠ field.name) :
    renamedInto fields field = field := by
  have notTaken : field.name ∉ fields.map fun other => other.name := by
    intro taken
    obtain ⟨other, member, same⟩ := List.mem_map.mp taken
    exact free other member same
  rw [renamedInto, Name.unused_of_not_mem notTaken]

theorem moveField_of_free {sourceId targetId : TypeId}
    (sourceFound : schema.requireType sourceId = .ok source)
    (targetFound : schema.requireType targetId = .ok target) (across : sourceId ≠ targetId)
    (isSource : source.body = .object fields)
    (among : fields.find? (fun other => other.id = field.id) = some field)
    (isTarget : target.body = .object targetFields)
    (free : ∀ other ∈ targetFields, other.name ≠ field.name) (before : Option FieldId) :
    schema.moveField sourceId field.id targetId before = .ok (field.name,
      (schema.updateType sourceId (TypeDecl.removeField field.id)).updateType targetId
        (TypeDecl.mapFields (insertBefore (fun other => before = some other.id) field))) := by
  refine moveField_eq_ok_iff.mpr ⟨source, sourceFound, target, targetFound, field,
    requireField_of_body isSource among, targetFields, isTarget, ?_, ?_⟩
  · rw [if_neg across, renamedInto_of_free free]
  · rw [moved, if_neg across, renamedInto_of_free free]

theorem id_ne_of_other_type (distinct : schema.IdsDistinct)
    (sourceFound : schema.requireType source.id = .ok source)
    (targetFound : schema.requireType target.id = .ok target) (across : source.id ≠ target.id)
    (among : field ∈ source.fields) : ∀ other ∈ target.fields, other.id ≠ field.id := by
  have kept := fieldsBut_of_ne distinct sourceFound among targetFound across
  intro other member
  rw [← kept] at member
  exact of_decide_eq_true (List.mem_filter.mp member).2

theorem eraseP_of_different (different : ((front ++ field :: back).map FieldDecl.id).Nodup) :
    (front ++ field :: back).eraseP (fun other => other.id = field.id) = front ++ back := by
  rw [List.map_append, List.nodup_append] at different
  obtain ⟨-, -, apart⟩ := different
  have notBefore : ∀ other ∈ front, ¬ decide (other.id = field.id) = true := by
    intro other member
    simpa using apart other.id (List.mem_map_of_mem member) field.id (by simp)
  have isField : decide (field.id = field.id) = true := decide_eq_true rfl
  rw [List.eraseP_append_right _ notBefore, List.eraseP_cons, isField, cond_true]

theorem requireType_written_both {f g : TypeDecl → TypeDecl}
    (sourceKeeps : ∀ decl : TypeDecl, (f decl).id = decl.id)
    (targetKeeps : ∀ decl : TypeDecl, (g decl).id = decl.id)
    (sourceFound : schema.requireType source.id = .ok source)
    (targetFound : schema.requireType target.id = .ok target) (across : source.id ≠ target.id) :
    ((schema.updateType source.id f).updateType target.id g).requireType source.id =
        .ok (f source) ∧
      ((schema.updateType source.id f).updateType target.id g).requireType target.id =
        .ok (g target) := by
  have sourceLeft := requireType_updateType_self sourceKeeps sourceFound
  have targetLeft := (requireType_updateType_of_ne sourceKeeps across).trans targetFound
  constructor
  · exact (requireType_updateType_of_ne targetKeeps across.symm).trans sourceLeft
  · exact requireType_updateType_self targetKeeps targetLeft

/-- The writes of two types are taken back in the reverse order. -/
theorem updateType_restores_both {f f' g g' : TypeDecl → TypeDecl}
    (sourceKeeps : ∀ decl : TypeDecl, (f decl).id = decl.id)
    (targetKeeps : ∀ decl : TypeDecl, (g decl).id = decl.id)
    (sourceFound : schema.requireType source.id = .ok source)
    (targetFound : schema.requireType target.id = .ok target) (across : source.id ≠ target.id)
    (sourceRestores : f' (f source) = source) (targetRestores : g' (g target) = target) :
    (((schema.updateType source.id f).updateType target.id g).updateType target.id g').updateType
      source.id f' = schema := by
  have targetLeft := (requireType_updateType_of_ne sourceKeeps across).trans targetFound
  rw [updateType_restores targetKeeps targetLeft targetRestores,
    updateType_restores sourceKeeps sourceFound sourceRestores]

theorem moveField_moveField (distinct : schema.IdsDistinct)
    (sourceFound : schema.requireType source.id = .ok source)
    (targetFound : schema.requireType target.id = .ok target) (across : source.id ≠ target.id)
    (isSource : source.body = .object (front ++ field :: back))
    (isTarget : target.body = .object targetFields)
    (freeThere : ∀ other ∈ targetFields, other.name ≠ field.name)
    (freeHere : ∀ other ∈ front ++ back, other.name ≠ field.name) (before : Option FieldId) :
    ∃ between, schema.moveField source.id field.id target.id before = .ok (field.name, between) ∧
      between.moveField target.id field.id source.id (back.head?.map FieldDecl.id) =
        .ok (field.name, schema) := by
  have among : field ∈ front ++ field :: back := by simp
  have own : field ∈ source.fields := by rwa [TypeDecl.fields, isSource]
  have different := fieldIds_nodup distinct sourceFound
  have elsewhere := id_ne_of_other_type distinct sourceFound targetFound across own
  rw [TypeDecl.fields, isSource] at different
  rw [TypeDecl.fields, isTarget] at elsewhere
  have absent : ∀ other ∈ targetFields, decide (other.id = field.id) = false :=
    fun other member => decide_eq_false (elsewhere other member)
  have isNew : decide (field.id = field.id) = true := decide_eq_true rfl
  have others : ((front ++ back).map FieldDecl.id).Nodup :=
    different.sublist (((List.Sublist.refl back).cons field).append_left front |>.map _)
  let insert := insertBefore (fun other : FieldDecl => before = some other.id) field
  have away := moveField_of_free sourceFound targetFound across isSource
    (find?_of_mem different among) isTarget freeThere before
  -- Between the moves the source lacks the field and the target has it under its name.
  obtain ⟨sourceBetween, targetBetween⟩ := requireType_written_both
    (f := TypeDecl.removeField field.id) (g := TypeDecl.mapFields insert) (fun _ => rfl)
    (fun _ => rfl) sourceFound targetFound across
  have sourceBody : (source.removeField field.id).body = .object (front ++ back) := by
    rw [TypeDecl.removeField, body_mapFields isSource, eraseP_of_different different]
  have home := moveField_of_free targetBetween sourceBetween across.symm (body_mapFields isTarget)
    (find?_insertBefore absent isNew) sourceBody freeHere (back.head?.map FieldDecl.id)
  have sourceRestores : (source.removeField field.id).mapFields (insertBefore
      (fun other => back.head?.map FieldDecl.id = some other.id) field) = source := by
    apply mapFields_mapFields_of_object isSource
    rw [eraseP_of_different different, insertBefore_head? others]
  have targetRestores : (target.mapFields insert).removeField field.id = target :=
    mapFields_mapFields_of_object isTarget (eraseP_insertBefore absent isNew)
  have restored := updateType_restores_both (f := TypeDecl.removeField field.id)
    (g := TypeDecl.mapFields insert) (fun _ => rfl) (fun _ => rfl) sourceFound targetFound across
    sourceRestores targetRestores
  refine ⟨_, away, ?_⟩
  rw [home, restored]

/-- The second edit, made right after the first, leaves the schema that the first was made to. -/
def Undoes (schema : Schema) (fresh later : FreshIds) (first : Edit) (given : EditOutcome)
    (between : Schema) (second : Edit) (returned : EditOutcome) : Prop :=
  schema.apply fresh first = .ok (given, between) ∧
    between.apply later second = .ok (returned, schema)

theorem exists_addType (schema : Schema) (fresh : FreshIds) (kind : TypeKind) (baseName : Name) :
    ∃ new : TypeDecl, new.id = fresh.type ∧ schema.addType fresh kind baseName =
      (.typeAdded fresh.type new.name, ⟨schema.types ++ [new]⟩) := by
  cases kind with
  | object => exact ⟨{ name := _, body := .object [], id := fresh.type }, rfl, rfl⟩
  | enumeration =>
      exact ⟨{ name := _, body := .enumeration placeholderValues, id := fresh.type }, rfl, rfl⟩

theorem undoes_addType (lacks : schema.Lacks fresh) (later : FreshIds) (kind : TypeKind)
    (baseName : Name) : ∃ new between, new.id = fresh.type ∧
      between.types = schema.types ++ [new] ∧
      schema.Undoes fresh later (.addType kind baseName) (.typeAdded fresh.type new.name) between
        (.deleteType fresh.type) (.typeDeleted new) := by
  obtain ⟨new, isNew, added⟩ := exists_addType schema fresh kind baseName
  refine ⟨new, ⟨schema.types ++ [new]⟩, isNew, rfl, ?_, ?_⟩
  · rw [apply, added]
  · rw [apply, deleteType_addType lacks isNew]
    rfl

theorem undoes_addField (lacks : schema.Lacks fresh) (later : FreshIds)
    (found : schema.requireType typeId = .ok decl) (isObject : decl.body = .object fields)
    (baseName : Name) : ∃ new between, new.id = fresh.field ∧
      between.fields typeId = fields ++ [new] ∧
      schema.Undoes fresh later (.addField typeId baseName) (.fieldAdded fresh.field new.name) between
        (.deleteField typeId fresh.field) (.fieldDeleted new) := by
  let new : FieldDecl :=
    { name := baseName.unused (fields.map fun field => field.name), typeName := defaultFieldType,
      id := fresh.field }
  let between := schema.updateType typeId (TypeDecl.mapFields (· ++ [new]))
  have added : schema.addField fresh typeId baseName = .ok (new.name, between) :=
    addField_eq_ok_iff.mpr ⟨decl, found, fields, isObject, rfl, rfl⟩
  have written : between.requireType typeId = .ok (decl.mapFields (· ++ [new])) :=
    requireType_updateType_self (f := TypeDecl.mapFields (· ++ [new])) (fun _ => rfl) found
  refine ⟨new, between, rfl, ?_, ?_, ?_⟩
  · rw [fields_eq_of_requireType written, TypeDecl.fields, body_mapFields isObject]
    rfl
  · rw [apply, added]
    rfl
  · rw [apply, deleteField_appendField lacks found isObject rfl]
    rfl

theorem undoes_addEnumValue {values : List Name} (later : FreshIds)
    (found : schema.requireType typeId = .ok decl) (isEnumeration : decl.body = .enumeration values)
    (baseValue : Name) : ∃ new between, between.values typeId = values ++ [new] ∧
      schema.Undoes fresh later (.addEnumValue typeId baseValue) (.enumValueAdded new) between
        (.deleteEnumValue typeId new) .updated := by
  let new := baseValue.unused values
  let between := schema.updateType typeId (TypeDecl.mapValues (· ++ [new]))
  have added : schema.addEnumValue typeId baseValue = .ok (new, between) :=
    addEnumValue_eq_ok_iff.mpr ⟨decl, found, values, isEnumeration, rfl, rfl⟩
  have written : between.requireType typeId = .ok (decl.mapValues (· ++ [new])) :=
    requireType_updateType_self (f := TypeDecl.mapValues (· ++ [new])) (fun _ => rfl) found
  refine ⟨new, between, ?_, ?_, ?_⟩
  · rw [Schema.values, type?, requireType_eq_ok_iff.mp written, Option.map_some, Option.getD_some,
      TypeDecl.values, TypeDecl.mapValues, isEnumeration]
    rfl
  · rw [apply, added]
    rfl
  · rw [apply, deleteEnumValue_appendValue found isEnumeration (Name.unused_not_mem baseValue values)]
    rfl

/-- What is added is deleted again under the id or the value that was given back, the deletion returns
it, and the schema is as it was, whatever names it had.  So it is after a field was moved under a name
that no other field of the two types has, and moved back to stand before the field that followed it. -/
theorem undone (distinct : schema.IdsDistinct) (lacks : schema.Lacks fresh) (later : FreshIds) :
    (∀ kind baseName, ∃ new between, new.id = fresh.type ∧
      between.types = schema.types ++ [new] ∧
      schema.Undoes fresh later (.addType kind baseName) (.typeAdded fresh.type new.name) between
        (.deleteType fresh.type) (.typeDeleted new)) ∧
    (∀ decl ∈ schema.types, ∀ fields, decl.body = .object fields → ∀ baseName,
      ∃ new between, new.id = fresh.field ∧ between.fields decl.id = fields ++ [new] ∧
        schema.Undoes fresh later (.addField decl.id baseName) (.fieldAdded fresh.field new.name)
          between (.deleteField decl.id fresh.field) (.fieldDeleted new)) ∧
    (∀ decl ∈ schema.types, ∀ values, decl.body = .enumeration values → ∀ baseValue,
      ∃ new between, between.values decl.id = values ++ [new] ∧
        schema.Undoes fresh later (.addEnumValue decl.id baseValue) (.enumValueAdded new) between
          (.deleteEnumValue decl.id new) .updated) ∧
    ∀ source ∈ schema.types, ∀ target ∈ schema.types, source ≠ target →
      ∀ front field back targetFields, source.body = .object (front ++ field :: back) →
      target.body = .object targetFields → (∀ other ∈ targetFields, other.name ≠ field.name) →
      (∀ other ∈ front ++ back, other.name ≠ field.name) → ∀ before, ∃ between,
        schema.Undoes fresh later (.moveField source.id field.id target.id before)
          (.fieldMoved field.id field.name) between
          (.moveField target.id field.id source.id (back.head?.map fun next => next.id))
          (.fieldMoved field.id field.name) := by
  refine ⟨fun kind baseName => undoes_addType lacks later kind baseName, ?_, ?_, ?_⟩
  · intro decl member fields isObject baseName
    exact undoes_addField lacks later (requireType_of_mem distinct member) isObject baseName
  · intro decl member values isEnumeration baseValue
    exact undoes_addEnumValue later (requireType_of_mem distinct member) isEnumeration baseValue
  · intro source sourceMember target targetMember different front field back targetFields isSource
      isTarget freeThere freeHere before
    have sourceFound := requireType_of_mem distinct sourceMember
    have targetFound := requireType_of_mem distinct targetMember
    have across : source.id ≠ target.id := by
      intro same
      rw [same, targetFound] at sourceFound
      cases sourceFound
      exact different rfl
    obtain ⟨between, away, home⟩ := moveField_moveField distinct sourceFound targetFound across
      isSource isTarget freeThere freeHere before
    refine ⟨between, ?_, ?_⟩
    · rw [apply, away]
      rfl
    · rw [apply, home]
      rfl

def doubledField (number : Nat) : FieldDecl :=
  { name := Name.literal "mail", typeName := Name.literal "Person", id := Id.ofNat number }

def ownField : FieldDecl :=
  { name := Name.literal "badge", typeName := Name.literal "Person", id := Id.ofNat 1 }

def doubledType : TypeDecl :=
  { name := Name.literal "Person", id := Id.ofNat 0,
    body := .object [doubledField 0, ownField, doubledField 2] }

def doubledEnum : TypeDecl :=
  { name := Name.literal "Person", id := Id.ofNat 1,
    body := .enumeration [Name.literal "mail", Name.literal "mail"] }

def otherType : TypeDecl :=
  { name := Name.literal "Person", id := Id.ofNat 2, body := .object [doubledField 3, doubledField 4] }

/-- Every name but one is there more than once. -/
def doubled : Schema :=
  ⟨[doubledType, doubledEnum, otherType]⟩

theorem doubled_undone :
    let fresh : FreshIds := ⟨Id.ofNat 3, Id.ofNat 5⟩
    doubled.IdsDistinct ∧ doubled.Lacks fresh ∧
    (∃ new between, new.id = fresh.type ∧ between.types = doubled.types ++ [new] ∧
      doubled.Undoes fresh fresh (.addType .enumeration (Name.literal "Person"))
        (.typeAdded fresh.type new.name) between (.deleteType fresh.type) (.typeDeleted new)) ∧
    (∃ new between, new.id = fresh.field ∧
      between.fields otherType.id = [doubledField 3, doubledField 4] ++ [new] ∧
      doubled.Undoes fresh fresh (.addField otherType.id (Name.literal "mail"))
        (.fieldAdded fresh.field new.name) between (.deleteField otherType.id fresh.field)
        (.fieldDeleted new)) ∧
    (∃ new between,
      between.values doubledEnum.id = [Name.literal "mail", Name.literal "mail"] ++ [new] ∧
      doubled.Undoes fresh fresh (.addEnumValue doubledEnum.id (Name.literal "mail"))
        (.enumValueAdded new) between (.deleteEnumValue doubledEnum.id new) .updated) ∧
    ∃ between, doubled.Undoes fresh fresh
      (.moveField doubledType.id ownField.id otherType.id (some (Id.ofNat 4)))
      (.fieldMoved ownField.id ownField.name) between
      (.moveField otherType.id ownField.id doubledType.id (some (Id.ofNat 2)))
      (.fieldMoved ownField.id ownField.name) := by
  intro fresh
  have distinct : doubled.IdsDistinct := ⟨by decide, by decide⟩
  have lacks : doubled.Lacks fresh := by
    rw [Lacks]
    decide
  obtain ⟨types, fields, values, moves⟩ := undone distinct lacks fresh
  refine ⟨distinct, lacks, types .enumeration _, ?_, ?_, ?_⟩
  · exact fields otherType (by decide) _ rfl _
  · exact values doubledEnum (by decide) _ rfl _
  · exact moves doubledType (by decide) otherType (by decide) (by decide) [doubledField 0] ownField
      [doubledField 2] _ rfl rfl (by decide) (by decide) _

end Schema

end SdlWorkbench
