import SdlWorkbench.Proofs.Schema.Attributes
import SdlWorkbench.Proofs.Schema.Ownership
/-!
What an edit leaves as it is.

Where ids differ, an edit changes one attribute of what it addresses, or it adds, deletes or moves one
thing.  All other types and fields stay as they are, each field with its owner and each in its order.
-/

namespace SdlWorkbench

namespace Edit

def addedType? (fresh : FreshIds) : Edit → Option TypeId
  | addType .. => some fresh.type
  | _ => none

def deletedType? : Edit → Option TypeId
  | deleteType typeId => some typeId
  | _ => none

def vacated? : Edit → Option (TypeId × FieldId)
  | deleteField typeId fieldId | moveField typeId fieldId _ _ => some (typeId, fieldId)
  | _ => none

def filled? (fresh : FreshIds) : Edit → Option (TypeId × FieldId)
  | addField typeId _ => some (typeId, fresh.field)
  | moveField _ fieldId target _ => some (target, fieldId)
  | _ => none

/-- Whether a field is neither added, deleted nor moved. -/
def staysPut (edit : Edit) (fresh : FreshIds) (owned : TypeId × FieldDecl) : Bool :=
  edit.deletedType? ≠ some owned.1 ∧ edit.vacated?.map Prod.snd ≠ some owned.2.id ∧
    (edit.filled? fresh).map Prod.snd ≠ some owned.2.id

/-- A declaration without its fields and, where the edit addresses it, without the attribute that the
edit names. -/
def shell (edit : Edit) (decl : TypeDecl) : TypeDecl :=
  (decl.without (if edit.typeId? = some decl.id ∧ edit.fieldId? = none then edit.attribute?
    else none)).mapFields fun _ => []

/-- A field, where the edit addresses it without the attribute that the edit names. -/
def core (edit : Edit) (owned : TypeId × FieldDecl) : TypeId × FieldDecl :=
  (owned.1, owned.2.without
    (if edit.fieldId? = some owned.2.id then edit.attribute? else none))

/-- The fields that stay put, in order and each with its owner, without the attribute that the edit names
of one it addresses. -/
def untouchedFields (edit : Edit) (fresh : FreshIds) (schema : Schema) : List (TypeId × FieldDecl) :=
  (schema.ownedFields.filter (edit.staysPut fresh)).map edit.core

/-- The second schema is the first one but for what the edit is about. -/
structure Frame (edit : Edit) (fresh : FreshIds) (schema after : Schema) : Prop where
  idsDistinct : after.IdsDistinct
  /-- An added type comes last, and no other one moves. -/
  typeIds : after.typeIds = (schema.typeIds.filter fun typeId => edit.deletedType? ≠ some typeId) ++
    (edit.addedType? fresh).toList
  /-- Which fields there are, and whose they are. -/
  places : ∀ place, place ∈ after.places ↔ place ∈ schema.places ∧
    edit.deletedType? ≠ some place.1 ∧ edit.vacated? ≠ some place ∨ edit.filled? fresh = some place
  /-- A type changes at most in its fields and in the attribute that the edit names of it. -/
  types : (after.types.filter fun decl => edit.addedType? fresh ≠ some decl.id).map edit.shell =
    (schema.types.filter fun decl => edit.deletedType? ≠ some decl.id).map edit.shell
  /-- A field that stays put keeps its owner and its order among the others, and it changes at most in
  the attribute that the edit names of it. -/
  fields : edit.untouchedFields fresh after = edit.untouchedFields fresh schema
  /-- A field that moves takes all but its name along. -/
  moved : ∀ taken given, edit.vacated? = some taken → edit.filled? fresh = some given →
    ∃ old new, (taken.1, old) ∈ schema.ownedFields ∧ (given.1, new) ∈ after.ownedFields ∧
      old.id = taken.2 ∧ new.id = given.2 ∧ new.without (some .name) = old.without (some .name)

end Edit

variable {schema after : Schema} {fresh : FreshIds} {edit : Edit} {typeId : TypeId}
  {fieldId : FieldId}

@[simp]
theorem FieldDecl.without_id (field : FieldDecl) (named : Option Attribute) :
    (field.without named).id = field.id := by
  cases named with
  | none => rfl
  | some named => cases named <;> rfl

@[simp]
theorem TypeDecl.without_id (decl : TypeDecl) (named : Option Attribute) :
    (decl.without named).id = decl.id := by
  cases named with
  | none => rfl
  | some named => cases named <;> rfl

@[simp]
theorem Edit.shell_id (edit : Edit) (decl : TypeDecl) : (edit.shell decl).id = decl.id :=
  decl.without_id _

theorem TypeDecl.fields_mapValues (decl : TypeDecl) (f : List Name → List Name) :
    (decl.mapValues f).fields = decl.fields := by
  rw [fields, fields, mapValues]
  cases decl.body <;> rfl

theorem TypeDecl.mapValues_without (decl : TypeDecl) (f : List Name → List Name) :
    (decl.mapValues f).without (some .values) = decl.without (some .values) := by
  obtain ⟨⟨name, description, directives, body⟩, id⟩ := decl
  cases body <;> rfl

theorem Schema.typeIds_eq_of_shells
    (types : after.types.map edit.shell = schema.types.map edit.shell) :
    after.typeIds = schema.typeIds := by
  have ids : ∀ schema : Schema,
      schema.typeIds = (schema.types.map edit.shell).map fun decl => decl.id := by
    intro schema
    rw [List.map_map]
    exact List.map_congr_left fun decl _ => (edit.shell_id decl).symm
  rw [ids, types, ← ids]

/-- At most one field is taken from its owner and one is given to an owner, and all else is in place. -/
theorem Edit.Frame.of_exchange (distinct : schema.IdsDistinct) (kept : List (TypeId × FieldId))
    (noneAdded : edit.addedType? fresh = none) (noneDeleted : edit.deletedType? = none)
    (types : after.types.map edit.shell = schema.types.map edit.shell)
    (before : schema.places.Perm (edit.vacated?.toList ++ kept))
    (behind : after.places.Perm ((edit.filled? fresh).toList ++ kept))
    (free : ∀ place, edit.filled? fresh = some place → place.2 ∉ kept.map Prod.snd)
    (fields : edit.untouchedFields fresh after = edit.untouchedFields fresh schema)
    (moved : ∀ taken given, edit.vacated? = some taken → edit.filled? fresh = some given →
      ∃ old new, (taken.1, old) ∈ schema.ownedFields ∧ (given.1, new) ∈ after.ownedFields ∧
        old.id = taken.2 ∧ new.id = given.2 ∧
        new.without (some .name) = old.without (some .name)) :
    edit.Frame fresh schema after where
  idsDistinct := by
    obtain ⟨typesDiffer, fieldsDiffer⟩ := Schema.idsDistinct_iff.mp distinct
    refine Schema.idsDistinct_iff.mpr ⟨Schema.typeIds_eq_of_shells types ▸ typesDiffer, ?_⟩
    have keptDiffer := ((before.map Prod.snd).nodup_iff.mp fieldsDiffer)
    rw [List.map_append, List.nodup_append] at keptDiffer
    rw [(behind.map Prod.snd).nodup_iff]
    -- The kept ids differ already, and the given one is not among them.
    cases filled : edit.filled? fresh with
    | none => exact keptDiffer.2.1
    | some place => exact List.nodup_cons.mpr ⟨free place filled, keptDiffer.2.1⟩
  typeIds := by
    simp [noneAdded, noneDeleted, Schema.typeIds_eq_of_shells types]
  places := by
    intro place
    have different := (before.map Prod.snd).nodup_iff.mp (Schema.idsDistinct_iff.mp distinct).2
    -- A kept field is not the one that was taken, as their ids differ.
    have gone : place ∈ kept → edit.vacated? ≠ some place := by
      intro member vacated
      rw [vacated] at different
      exact (List.nodup_cons.mp different).1 (List.mem_map_of_mem member)
    rw [behind.mem_iff, before.mem_iff, noneDeleted, List.mem_append, List.mem_append,
      Option.mem_toList, Option.mem_toList]
    constructor
    · rintro (filled | member)
      · exact .inr filled
      · exact .inl ⟨.inr member, (Option.some_ne_none _).symm, gone member⟩
    · rintro (⟨vacated | member, -, stays⟩ | filled)
      · exact absurd vacated stays
      · exact .inr member
      · exact .inl filled
  types := by
    simpa [noneAdded, noneDeleted] using types
  fields := fields
  moved := moved

theorem Edit.shell_mapFields (edit : Edit) (decl : TypeDecl) (f : List FieldDecl → List FieldDecl) :
    edit.shell (decl.mapFields f) = edit.shell decl := by
  have ids : (decl.mapFields f).id = decl.id := rfl
  rw [shell, shell, ids]
  generalize (if edit.typeId? = some decl.id ∧ edit.fieldId? = none then edit.attribute?
    else none) = named
  obtain ⟨⟨name, description, directives, body⟩, id⟩ := decl
  cases body <;> cases named with
  | none => rfl
  | some named => cases named <;> rfl

/-- The fields of a declaration that stay where they are, without the attribute that the edit names. -/
def Edit.staying (edit : Edit) (fresh : FreshIds) (decl : TypeDecl) : List (TypeId × FieldDecl) :=
  (decl.ownedFields.filter (edit.staysPut fresh)).map edit.core

namespace Schema

theorem untouchedFields_eq (schema : Schema) (edit : Edit) (fresh : FreshIds) :
    edit.untouchedFields fresh schema = schema.types.flatMap (edit.staying fresh) := by
  rw [Edit.untouchedFields, ownedFields, List.filter_flatMap, List.map_flatMap]
  rfl

theorem untouchedFields_updateType {f : TypeDecl → TypeDecl}
    (same : ∀ decl : TypeDecl, decl.id = typeId →
      edit.staying fresh (f decl) = edit.staying fresh decl) :
    edit.untouchedFields fresh (schema.updateType typeId f) = edit.untouchedFields fresh schema := by
  rw [untouchedFields_eq, untouchedFields_eq]
  exact flatMap_updateFirst (by simpa using same) schema.types

theorem shells_updateType {f : TypeDecl → TypeDecl} (same : ∀ decl : TypeDecl, decl.id = typeId →
    edit.shell (f decl) = edit.shell decl) :
    (schema.updateType typeId f).types.map edit.shell = schema.types.map edit.shell :=
  map_updateFirst (by simpa using same) schema.types

end Schema

theorem Edit.staying_mapFields {f : List FieldDecl → List FieldDecl} (decl : TypeDecl)
    (same : ∀ fields, (f fields).filter (fun field => edit.staysPut fresh (decl.id, field)) =
      fields.filter fun field => edit.staysPut fresh (decl.id, field)) :
    edit.staying fresh (decl.mapFields f) = edit.staying fresh decl := by
  have ids : (decl.mapFields f).id = decl.id := rfl
  rw [staying, staying, TypeDecl.ownedFields, TypeDecl.ownedFields, ids, List.filter_map,
    List.filter_map]
  obtain ⟨⟨name, description, directives, body⟩, id⟩ := decl
  cases body with
  | enumeration values => rfl
  | object fields => exact congrArg _ (congrArg _ (same fields))

/-! ### Edits in place -/

structure Edit.KeepsPlaces (edit : Edit) (fresh : FreshIds) : Prop where
  addedType : edit.addedType? fresh = none
  deletedType : edit.deletedType? = none
  vacated : edit.vacated? = none
  filled : edit.filled? fresh = none

namespace Edit

theorem KeepsPlaces.staying (inPlace : edit.KeepsPlaces fresh) (decl : TypeDecl) :
    edit.staying fresh decl = decl.ownedFields.map edit.core := by
  rw [Edit.staying, List.filter_eq_self.mpr]
  intro owned _
  simp [staysPut, inPlace.deletedType, inPlace.vacated, inPlace.filled]

theorem Frame.of_write (distinct : schema.IdsDistinct) (inPlace : edit.KeepsPlaces fresh)
    {f : TypeDecl → TypeDecl}
    (shells : ∀ decl : TypeDecl, decl.id = typeId → edit.shell (f decl) = edit.shell decl)
    (cores : ∀ decl : TypeDecl, decl.id = typeId →
      (f decl).ownedFields.map edit.core = decl.ownedFields.map edit.core) :
    edit.Frame fresh schema (schema.updateType typeId f) := by
  have places : (schema.updateType typeId f).places = schema.places := by
    have byCores : ∀ schema : Schema, schema.places =
        (schema.types.flatMap fun decl => decl.ownedFields.map edit.core).map
          fun owned => (owned.1, owned.2.id) := by
      intro schema
      rw [Schema.places, Schema.ownedFields, ← List.map_flatMap, List.map_map]
      exact List.map_congr_left fun owned _ => by simp [core]
    rw [byCores, byCores schema]
    exact congrArg _ (flatMap_updateFirst (by simpa using cores) schema.types)
  refine .of_exchange distinct schema.places inPlace.addedType inPlace.deletedType
    (Schema.shells_updateType shells) ?_ ?_ ?_ (Schema.untouchedFields_updateType fun decl found => ?_) ?_
  · rw [inPlace.vacated]
    exact .refl _
  · rw [inPlace.filled, places]
    exact .refl _
  · intro place filled
    rw [inPlace.filled] at filled
    cases filled
  · rw [inPlace.staying, inPlace.staying, cores decl found]
  · intro taken given vacated
    rw [inPlace.vacated] at vacated
    cases vacated

theorem Frame.of_writeType (distinct : schema.IdsDistinct) (inPlace : edit.KeepsPlaces fresh)
    (addresses : edit.typeId? = some typeId) (noField : edit.fieldId? = none)
    {f : TypeDecl → TypeDecl} (ids : ∀ decl : TypeDecl, (f decl).id = decl.id)
    (fields : ∀ decl : TypeDecl, (f decl).fields = decl.fields)
    (same : ∀ decl : TypeDecl, (f decl).without edit.attribute? = decl.without edit.attribute?) :
    edit.Frame fresh schema (schema.updateType typeId f) := by
  refine .of_write distinct inPlace (fun decl found => ?_) fun decl _ => ?_
  · rw [shell, shell, ids, if_pos ⟨found ▸ addresses, noField⟩, same]
  · rw [TypeDecl.ownedFields, TypeDecl.ownedFields, ids, fields]

theorem Frame.of_writeField (distinct : schema.IdsDistinct) (inPlace : edit.KeepsPlaces fresh)
    (addresses : edit.fieldId? = some fieldId) {f : FieldDecl → FieldDecl}
    (same : ∀ field : FieldDecl, (f field).without edit.attribute? = field.without edit.attribute?) :
    edit.Frame fresh schema (schema.updateType typeId (TypeDecl.updateField fieldId f)) := by
  refine .of_write distinct inPlace (fun decl _ => edit.shell_mapFields decl _) fun decl _ => ?_
  have ids : ∀ field : FieldDecl, (f field).id = field.id := by
    intro field
    rw [← (f field).without_id edit.attribute?, same, FieldDecl.without_id]
  obtain ⟨⟨name, description, directives, body⟩, id⟩ := decl
  cases body with
  | enumeration values => rfl
  | object fields =>
      change ((updateFirst _ f fields).map fun field => (id, field)).map edit.core =
        (fields.map fun field => (id, field)).map edit.core
      rw [List.map_map, List.map_map]
      refine map_updateFirst (fun field found => ?_) fields
      have isField : field.id = fieldId := of_decide_eq_true found
      simp [core, ids, isField, addresses, same]

theorem writeType_without (sets : edit.setsAttribute = true) (decl : TypeDecl) :
    (edit.writeType decl).without edit.attribute? = decl.without edit.attribute? := by
  cases edit <;> cases sets <;> rfl

theorem writeField_without (sets : edit.setsAttribute = true) (field : FieldDecl) :
    (edit.writeField field).without edit.attribute? = field.without edit.attribute? := by
  cases edit <;> cases sets <;> rfl

theorem keepsPlaces_of_setsAttribute (sets : edit.setsAttribute = true) :
    edit.KeepsPlaces fresh := by
  cases edit <;> cases sets <;> exact ⟨rfl, rfl, rfl, rfl⟩

theorem Frame.of_setsAttribute (distinct : schema.IdsDistinct) (sets : edit.setsAttribute = true) :
    edit.Frame fresh schema (edit.write schema) := by
  have inPlace : edit.KeepsPlaces fresh := keepsPlaces_of_setsAttribute sets
  obtain ⟨typeId, addresses⟩ := exists_typeId_of_setsAttribute sets
  rw [write_eq addresses]
  cases isField : edit.fieldId? with
  | none =>
      rw [writeIn_of_type isField]
      exact .of_writeType distinct inPlace addresses isField (fun _ => rfl) (fun _ => rfl)
        (writeType_without sets)
  | some fieldId =>
      rw [writeIn_of_field isField]
      exact .of_writeField distinct inPlace isField (writeField_without sets)

theorem Frame.of_addType (distinct : schema.IdsDistinct) (unused : schema.Lacks fresh)
    (kind : TypeKind) (baseName : Name) :
    (addType kind baseName).Frame fresh schema (schema.addType fresh kind baseName).2 := by
  obtain ⟨added, isAdded, hasId, noFields⟩ : ∃ added : TypeDecl,
      (schema.addType fresh kind baseName).2 = ⟨schema.types ++ [added]⟩ ∧
        added.id = fresh.type ∧ added.fields = [] := by
    refine ⟨_, rfl, rfl, ?_⟩
    cases kind <;> rfl
  rw [isAdded]
  have typeIds : Schema.typeIds ⟨schema.types ++ [added]⟩ = schema.typeIds ++ [fresh.type] := by
    simp [Schema.typeIds, hasId]
  have owned : Schema.ownedFields ⟨schema.types ++ [added]⟩ = schema.ownedFields := by
    simp [Schema.ownedFields, TypeDecl.ownedFields, noFields]
  have places : Schema.places ⟨schema.types ++ [added]⟩ = schema.places := by
    rw [Schema.places, owned, Schema.places]
  have old : ∀ decl ∈ schema.types, fresh.type ≠ decl.id :=
    fun decl member => (unused decl member).1.symm
  have isNew : fresh.type ∉ schema.typeIds := by
    rw [Schema.typeIds, List.mem_map]
    rintro ⟨decl, member, same⟩
    exact old decl member same.symm
  obtain ⟨typesDiffer, fieldsDiffer⟩ := Schema.idsDistinct_iff.mp distinct
  constructor
  case idsDistinct =>
    rw [Schema.idsDistinct_iff, typeIds, places]
    exact ⟨((List.perm_append_singleton _ _).nodup_iff).mpr (List.nodup_cons.mpr
      ⟨isNew, typesDiffer⟩), fieldsDiffer⟩
  case typeIds => simp [typeIds, deletedType?, addedType?]
  case places =>
    intro place
    simp [places, deletedType?, vacated?, filled?]
  case types =>
    have kept : (schema.types ++ [added]).filter (fun decl => some fresh.type ≠ some decl.id) =
        schema.types := by
      rw [List.filter_append, List.filter_cons_of_neg (by simp [hasId]), List.filter_nil,
        List.append_nil, List.filter_eq_self]
      exact fun decl member => by simpa using old decl member
    have all : schema.types.filter (fun decl => none ≠ some decl.id) = schema.types :=
      List.filter_eq_self.mpr fun decl _ => by simp
    exact congrArg (List.map _) (kept.trans all.symm)
  case fields => rw [untouchedFields, owned, untouchedFields]
  case moved =>
    intro taken given impossible
    cases impossible

theorem Frame.of_deleteType (distinct : schema.IdsDistinct) :
    (deleteType typeId).Frame fresh schema
      ⟨schema.types.eraseP fun decl => decl.id = typeId⟩ := by
  obtain ⟨typesDiffer, fieldsDiffer⟩ := Schema.idsDistinct_iff.mp distinct
  -- Only the first type with the id is taken out, which is the only one.
  rw [eraseP_eq_filter typesDiffer typeId]
  have owned := Schema.ownedFields_filter schema fun other => other ≠ typeId
  have places : Schema.places ⟨schema.types.filter fun decl => decl.id ≠ typeId⟩ =
      schema.places.filter fun place => place.1 ≠ typeId := by
    rw [Schema.places, owned, Schema.places, List.filter_map]
    rfl
  have typeIds : Schema.typeIds ⟨schema.types.filter fun decl => decl.id ≠ typeId⟩ =
      schema.typeIds.filter fun other => other ≠ typeId := by
    rw [Schema.typeIds, Schema.typeIds, List.filter_map]
    rfl
  have stays : ∀ other : TypeId,
      ((deleteType typeId).deletedType? ≠ some other) = (other ≠ typeId) := by
    intro other
    rw [deletedType?, ne_comm, ne_eq, Option.some.injEq]
  have staysPut : ∀ owned : TypeId × FieldDecl,
      ((deleteType typeId).staysPut fresh owned && decide (owned.1 ≠ typeId)) =
        (deleteType typeId).staysPut fresh owned := by
    intro owned
    rw [Bool.and_eq_left_iff_imp]
    intro put
    rw [Edit.staysPut, decide_eq_true_iff, stays] at put
    exact decide_eq_true put.1
  constructor
  case idsDistinct =>
    rw [Schema.idsDistinct_iff, typeIds, places]
    exact ⟨typesDiffer.filter _, fieldsDiffer.sublist (List.filter_sublist.map _)⟩
  case typeIds =>
    rw [typeIds]
    simp only [stays, addedType?, Option.toList_none, List.append_nil]
  case places =>
    intro place
    rw [places, List.mem_filter]
    simp [stays, vacated?, filled?]
  case types =>
    simp only [stays]
    rw [List.filter_eq_self.mpr fun decl _ => by simp [addedType?]]
  case fields =>
    rw [untouchedFields, owned, List.filter_filter, funext staysPut, untouchedFields]
  case moved =>
    intro taken given impossible
    cases impossible

/-! ### Fields that come and go -/

theorem shells_mapFields (edit : Edit) (schema : Schema) (typeId : TypeId)
    (f : List FieldDecl → List FieldDecl) :
    (schema.updateType typeId (TypeDecl.mapFields f)).types.map edit.shell =
      schema.types.map edit.shell :=
  Schema.shells_updateType fun decl _ => edit.shell_mapFields decl f

theorem untouchedFields_mapFields {f : List FieldDecl → List FieldDecl}
    (same : ∀ fields, (f fields).filter (fun field => edit.staysPut fresh (typeId, field)) =
      fields.filter fun field => edit.staysPut fresh (typeId, field)) :
    edit.untouchedFields fresh (schema.updateType typeId (TypeDecl.mapFields f)) =
      edit.untouchedFields fresh schema := by
  refine Schema.untouchedFields_updateType fun decl isType => ?_
  subst isType
  exact staying_mapFields decl same

theorem not_staysPut_of_vacated {place : TypeId × FieldId} (vacated : edit.vacated? = some place)
    {field : FieldDecl} (isField : field.id = place.2) (owner : TypeId) :
    edit.staysPut fresh (owner, field) = false := by
  simp [staysPut, vacated, isField]

theorem not_staysPut_of_filled {place : TypeId × FieldId}
    (filled : edit.filled? fresh = some place) {field : FieldDecl} (isField : field.id = place.2)
    (owner : TypeId) : edit.staysPut fresh (owner, field) = false := by
  simp [staysPut, filled, isField]

theorem Frame.of_addField (distinct : schema.IdsDistinct) (unused : schema.Lacks fresh)
    {baseName name : Name} (done : schema.addField fresh typeId baseName = .ok (name, after)) :
    (addField typeId baseName).Frame fresh schema after := by
  obtain ⟨decl, found, fields, isObject, -, rfl⟩ := Schema.addField_eq_ok_iff.mp done
  refine .of_exchange distinct schema.places rfl rfl (shells_mapFields _ _ _ _) (.refl _) ?_ ?_
    (untouchedFields_mapFields fun fields => ?_) ?_
  · exact (Schema.ownedFields_insert_perm (fun fields => List.perm_append_singleton _ fields)
      found isObject).map _
  · rintro place filled taken
    cases filled
    rw [Schema.map_snd_places, List.mem_flatMap] at taken
    obtain ⟨other, member, among⟩ := taken
    obtain ⟨field, fieldMember, same⟩ := List.mem_map.mp among
    exact (unused other member).2 field fieldMember same
  · rw [List.filter_append, List.filter_cons_of_neg, List.filter_nil, List.append_nil]
    rw [not_staysPut_of_filled rfl rfl]
    exact Bool.false_ne_true
  · intro taken given impossible
    cases impossible

theorem Frame.of_deleteField (distinct : schema.IdsDistinct) {field : FieldDecl}
    (done : schema.deleteField typeId fieldId = .ok (field, after)) :
    (deleteField typeId fieldId).Frame fresh schema after := by
  obtain ⟨decl, found, among, rfl⟩ := Schema.deleteField_eq_ok_iff.mp done
  have taken := (Schema.ownedFields_removeField_perm found among).map
    fun owned => (owned.1, owned.2.id)
  refine .of_exchange distinct
    (schema.updateType typeId (TypeDecl.removeField fieldId)).places rfl rfl
    (shells_mapFields _ _ _ _) ?_ (.refl _) ?_ (untouchedFields_mapFields fun fields => ?_) ?_
  · rwa [List.map_cons, Schema.id_of_requireField among] at taken
  · intro place impossible
    cases impossible
  · refine filter_eraseP (fun other isField => ?_) fields
    exact not_staysPut_of_vacated rfl (of_decide_eq_true isField) typeId
  · intro taken given _ impossible
    cases impossible

theorem moved_cases (schema : Schema) (source : TypeId) (field : FieldDecl) (fieldId : FieldId)
    (target : TypeId) (targetFields : List FieldDecl) (before : Option FieldId) :
    source = target ∧ schema.moved source field fieldId target targetFields before = schema ∨
      ∃ new p, new.id = field.id ∧ new.without (some .name) = field.without (some .name) ∧
        schema.moved source field fieldId target targetFields before =
          (schema.updateType source (TypeDecl.removeField fieldId)).updateType target
            (TypeDecl.mapFields (insertBefore p new)) := by
  unfold Schema.moved
  dsimp only
  split
  · next within =>
      subst within
      split
      · exact .inl ⟨rfl, rfl⟩
      · refine .inr ⟨field, fun other => before = some other.id, rfl, rfl, ?_⟩
        rw [Schema.updateType_updateType (f := TypeDecl.removeField fieldId) fun _ => rfl]
        rfl
  · exact .inr ⟨Schema.renamedInto targetFields field, _, rfl, rfl, rfl⟩

theorem shells_moved (edit : Edit) (schema : Schema) (source : TypeId) (field : FieldDecl)
    (fieldId : FieldId) (target : TypeId) (targetFields : List FieldDecl)
    (before : Option FieldId) :
    (schema.moved source field fieldId target targetFields before).types.map edit.shell =
      schema.types.map edit.shell := by
  rcases moved_cases schema source field fieldId target targetFields before with
    ⟨-, unmoved⟩ | ⟨new, p, -, -, written⟩
  · rw [unmoved]
  · rw [written]
    exact (shells_mapFields _ _ _ _).trans (shells_mapFields _ _ _ _)

theorem untouchedFields_moved {field : FieldDecl} (isField : field.id = fieldId) (schema : Schema)
    (source target : TypeId) (targetFields : List FieldDecl) (before : Option FieldId) :
    (moveField source fieldId target before).untouchedFields fresh
        (schema.moved source field fieldId target targetFields before) =
      (moveField source fieldId target before).untouchedFields fresh schema := by
  rcases moved_cases schema source field fieldId target targetFields before with
    ⟨-, unmoved⟩ | ⟨new, p, sameId, -, written⟩
  · rw [unmoved]
  · rw [written]
    refine (untouchedFields_mapFields fun fields => ?_).trans
      (untouchedFields_mapFields fun fields => ?_)
    · refine filter_insertBefore ?_ fields
      exact not_staysPut_of_filled rfl (sameId.trans isField) target
    · refine filter_eraseP (fun other isOther => ?_) fields
      exact not_staysPut_of_vacated rfl (of_decide_eq_true isOther) source

/-- All that a move takes from its source and puts into its target is the one field. -/
theorem exists_ownedFields_moved_perm {source target : TypeId} {sourceDecl targetDecl : TypeDecl}
    {field : FieldDecl} {targetFields : List FieldDecl}
    (sourceFound : schema.requireType source = .ok sourceDecl)
    (targetFound : schema.requireType target = .ok targetDecl)
    (fieldFound : sourceDecl.requireField fieldId = .ok field)
    (isObject : targetDecl.body = .object targetFields) (before : Option FieldId) :
    ∃ new, new.id = field.id ∧ new.without (some .name) = field.without (some .name) ∧
      (schema.moved source field fieldId target targetFields before).ownedFields.Perm
        ((target, new) :: (schema.updateType source (TypeDecl.removeField fieldId)).ownedFields) := by
  rcases moved_cases schema source field fieldId target targetFields before with
    ⟨rfl, unmoved⟩ | ⟨new, p, sameId, same, written⟩
  · rw [unmoved]
    exact ⟨field, rfl, rfl, Schema.ownedFields_removeField_perm sourceFound fieldFound⟩
  · obtain ⟨decl, rest, found, restObject, -⟩ :=
      InPlace.exists_requireType_removeField fieldId sourceFound targetFound isObject
    rw [written]
    exact ⟨new, sameId, same,
      Schema.ownedFields_insert_perm (insertBefore_perm new) found restObject⟩

theorem Frame.of_moveField (distinct : schema.IdsDistinct) {source target : TypeId}
    {before : Option FieldId} {name : Name}
    (done : schema.moveField source fieldId target before = .ok (name, after)) :
    (moveField source fieldId target before).Frame fresh schema after := by
  obtain ⟨sourceDecl, sourceFound, targetDecl, targetFound, field, fieldFound, targetFields,
    isObject, -, rfl⟩ := Schema.moveField_eq_ok_iff.mp done
  have isField := Schema.id_of_requireField fieldFound
  have taken := Schema.ownedFields_removeField_perm sourceFound fieldFound
  obtain ⟨new, sameId, same, put⟩ :=
    exists_ownedFields_moved_perm sourceFound targetFound fieldFound isObject before
  have left := taken.map fun owned => (owned.1, owned.2.id)
  have entered := put.map fun owned => (owned.1, owned.2.id)
  rw [List.map_cons, isField] at left
  rw [List.map_cons, sameId, isField] at entered
  refine .of_exchange distinct
    (schema.updateType source (TypeDecl.removeField fieldId)).places rfl rfl
    (shells_moved ..) left entered ?_ (untouchedFields_moved isField ..) ?_
  · rintro place filled
    cases filled
    have different := (left.map Prod.snd).nodup_iff.mp (Schema.idsDistinct_iff.mp distinct).2
    exact (List.nodup_cons.mp different).1
  · intro isTaken isGiven vacated filled
    cases vacated
    cases filled
    exact ⟨field, new, taken.mem_iff.mpr List.mem_cons_self, put.mem_iff.mpr List.mem_cons_self,
      isField, sameId.trans isField, same⟩

theorem Frame.of_apply (distinct : schema.IdsDistinct) (unused : schema.Lacks fresh)
    {outcome : EditOutcome} (done : schema.apply fresh edit = .ok (outcome, after)) :
    edit.Frame fresh schema after := by
  -- Seven kinds of edits are writes of an attribute, and the others are taken one by one.
  by_cases sets : edit.setsAttribute = true
  · rw [(Schema.eq_write_of_apply sets done).2]
    exact .of_setsAttribute distinct sets
  · cases edit <;> simp only [Schema.apply, Except.bind_eq_ok_iff, Except.pure_eq_ok_iff,
      Except.ok.injEq, Prod.mk.injEq, Prod.exists] at done
    case addType kind baseName =>
      obtain ⟨-, rfl⟩ := done
      exact .of_addType distinct unused kind baseName
    case renameType typeId newName =>
      obtain ⟨_, renamed, -, rfl⟩ := done
      obtain ⟨_, -, -, rfl⟩ := Schema.renameType_eq_ok_iff.mp renamed
      exact .of_writeType distinct ⟨rfl, rfl, rfl, rfl⟩ rfl rfl (fun _ => rfl) (fun _ => rfl)
        fun _ => rfl
    case deleteType typeId =>
      obtain ⟨_, _, deleted, -, rfl⟩ := done
      obtain ⟨-, rfl⟩ := Schema.deleteType_eq_ok_iff.mp deleted
      exact .of_deleteType distinct
    case addField typeId baseName =>
      obtain ⟨_, _, added, -, rfl⟩ := done
      exact .of_addField distinct unused added
    case renameField typeId fieldId newName =>
      obtain ⟨_, renamed, -, rfl⟩ := done
      obtain ⟨_, -, _, -, -, rfl⟩ := Schema.renameField_eq_ok_iff.mp renamed
      exact .of_writeField distinct ⟨rfl, rfl, rfl, rfl⟩ rfl fun _ => rfl
    case deleteField typeId fieldId =>
      obtain ⟨_, _, deleted, -, rfl⟩ := done
      exact .of_deleteField distinct deleted
    case moveField source fieldId target before =>
      obtain ⟨_, _, relocated, -, rfl⟩ := done
      exact .of_moveField distinct relocated
    case addEnumValue typeId baseValue =>
      obtain ⟨_, _, added, -, rfl⟩ := done
      obtain ⟨_, -, _, -, -, rfl⟩ := Schema.addEnumValue_eq_ok_iff.mp added
      exact .of_writeType distinct ⟨rfl, rfl, rfl, rfl⟩ rfl rfl (fun _ => rfl)
        (fun decl => decl.fields_mapValues _) fun decl => decl.mapValues_without _
    case deleteEnumValue typeId value =>
      obtain ⟨_, deleted, -, rfl⟩ := done
      obtain ⟨_, -, _, -, -, rfl⟩ := Schema.deleteEnumValue_eq_ok_iff.mp deleted
      exact .of_writeType distinct ⟨rfl, rfl, rfl, rfl⟩ rfl rfl (fun _ => rfl)
        (fun decl => decl.fields_mapValues _) fun decl => decl.mapValues_without _
    all_goals exact absurd rfl sets

/-- An edit of a type as a whole leaves every field of the types that stay. -/
theorem Frame.ownedFields_eq (frame : edit.Frame fresh schema after) (noField : edit.fieldId? = none)
    (noneAdded : edit.filled? fresh = none) :
    after.ownedFields = schema.ownedFields.filter fun owned => edit.deletedType? ≠ some owned.1 := by
  have noneVacated : edit.vacated? = none := by
    cases edit <;> first | rfl | cases noField
  have stays : ∀ owned, edit.staysPut fresh owned = decide (edit.deletedType? ≠ some owned.1) := by
    intro owned
    simp [staysPut, noneVacated, noneAdded]
  have whole : ∀ owned, edit.core owned = owned := by
    intro owned
    simp [core, noField, FieldDecl.without]
  have kept := frame.fields
  rw [untouchedFields, untouchedFields, funext whole, List.map_id', List.map_id',
    funext stays] at kept
  rw [← kept, List.filter_eq_self.mpr]
  intro owned member
  have place := (frame.places (owned.1, owned.2.id)).mp
    (List.mem_map_of_mem (f := fun owned => (owned.1, owned.2.id)) member)
  rw [noneAdded] at place
  rcases place with ⟨-, notDeleted, -⟩ | impossible
  · exact decide_eq_true notDeleted
  · cases impossible

end Edit

namespace Schema

/-- Edits touch nothing else, and one that addresses a type as a whole no field that stays: not even
a reference to a type that is renamed or deleted. -/
theorem frame_of_apply (distinct : schema.IdsDistinct) (unused : schema.Lacks fresh)
    {outcome : EditOutcome} (done : schema.apply fresh edit = .ok (outcome, after)) :
    edit.Frame fresh schema after ∧
    (edit.fieldId? = none → edit.filled? fresh = none →
      after.ownedFields = schema.ownedFields.filter
        fun owned => edit.deletedType? ≠ some owned.1) := by
  have frame : edit.Frame fresh schema after := .of_apply distinct unused done
  exact ⟨frame, frame.ownedFields_eq⟩

/-- Two types with fields of one name that refer to each other. -/
def homonyms : Schema :=
  ⟨[{ name := Name.literal "Left", id := Id.ofNat 0, body := .object
        [{ name := Name.literal "shared", typeName := Name.literal "Right", id := Id.ofNat 0 }] },
    { name := Name.literal "Right", id := Id.ofNat 1, body := .object
        [{ name := Name.literal "shared", typeName := Name.literal "Left", id := Id.ofNat 1 },
          { name := Name.literal "own", typeName := Name.literal "Left", id := Id.ofNat 2 }] }]⟩

def homonymsTogether : Schema :=
  ⟨[{ name := Name.literal "Left", id := Id.ofNat 0, body := .object [] },
    { name := Name.literal "Right", id := Id.ofNat 1, body := .object
        [{ name := Name.literal "shared", typeName := Name.literal "Left", id := Id.ofNat 1 },
          { name := Name.literal "shared1", typeName := Name.literal "Right", id := Id.ofNat 0 },
          { name := Name.literal "own", typeName := Name.literal "Left", id := Id.ofNat 2 }] }]⟩

theorem homonyms_frame :
    homonyms.IdsDistinct ∧ homonyms.Lacks ⟨Id.ofNat 2, Id.ofNat 3⟩ ∧
    homonyms.apply ⟨Id.ofNat 2, Id.ofNat 3⟩
        (.moveField (Id.ofNat 0) (Id.ofNat 0) (Id.ofNat 1) (some (Id.ofNat 2))) =
      .ok (.fieldMoved (Id.ofNat 0) (Name.literal "shared1"), homonymsTogether) ∧
    (Edit.moveField (Id.ofNat 0) (Id.ofNat 0) (Id.ofNat 1) (some (Id.ofNat 2))).Frame
      ⟨Id.ofNat 2, Id.ofNat 3⟩ homonyms homonymsTogether := by
  have distinct : homonyms.IdsDistinct := ⟨by decide, by decide⟩
  have unused : homonyms.Lacks ⟨Id.ofNat 2, Id.ofNat 3⟩ := by
    rw [Lacks]
    decide
  have done : homonyms.apply ⟨Id.ofNat 2, Id.ofNat 3⟩
      (.moveField (Id.ofNat 0) (Id.ofNat 0) (Id.ofNat 1) (some (Id.ofNat 2))) =
        .ok (.fieldMoved (Id.ofNat 0) (Name.literal "shared1"), homonymsTogether) := by
    decide
  exact ⟨distinct, unused, done, (frame_of_apply distinct unused done).1⟩

end Schema

end SdlWorkbench
