import SdlWorkbench.Proofs.Schema.Writing
/-!
Which fields there are, and whose they are.

A field that is put into a type or taken from it is one element more or less among the fields of the
schema with their owners, wherever it stands in its type.
-/

namespace SdlWorkbench

def TypeDecl.ownedFields (decl : TypeDecl) : List (TypeId × FieldDecl) :=
  decl.fields.map fun field => (decl.id, field)

theorem TypeDecl.ownedFields_mapFields {decl : TypeDecl} {fields : List FieldDecl}
    (isObject : decl.body = .object fields) (f : List FieldDecl → List FieldDecl) :
    (decl.mapFields f).ownedFields = (f fields).map fun field => (decl.id, field) := by
  rw [ownedFields, TypeDecl.fields, mapFields, isObject]
  rfl

namespace Schema

def typeIds (schema : Schema) : List TypeId :=
  schema.types.map fun decl => decl.id

/-- All fields in document order, each with the id of its owner. -/
def ownedFields (schema : Schema) : List (TypeId × FieldDecl) :=
  schema.types.flatMap TypeDecl.ownedFields

/-- The ids of all fields in document order, each with the id of its owner. -/
def places (schema : Schema) : List (TypeId × FieldId) :=
  schema.ownedFields.map fun owned => (owned.1, owned.2.id)

theorem map_snd_places (schema : Schema) : schema.places.map Prod.snd =
    schema.types.flatMap fun decl => decl.fields.map fun field => field.id := by
  rw [places, ownedFields, List.map_map, List.map_flatMap]
  refine List.flatMap_congr fun decl _ => ?_
  rw [TypeDecl.ownedFields, List.map_map]
  rfl

theorem idsDistinct_iff {schema : Schema} : schema.IdsDistinct ↔
    schema.typeIds.Nodup ∧ (schema.places.map Prod.snd).Nodup := by
  rw [map_snd_places]
  exact ⟨fun distinct => ⟨distinct.types, distinct.fields⟩, fun both => ⟨both.1, both.2⟩⟩

theorem ownedFields_filter (schema : Schema) (keep : TypeId → Bool) :
    ownedFields ⟨schema.types.filter fun decl => keep decl.id⟩ =
      schema.ownedFields.filter fun owned => keep owned.1 := by
  change (schema.types.filter fun decl => keep decl.id).flatMap TypeDecl.ownedFields =
    (schema.types.flatMap TypeDecl.ownedFields).filter fun owned => keep owned.1
  induction schema.types with
  | nil => rfl
  | cons first rest ih =>
      have own : ∀ owned ∈ first.ownedFields, keep owned.1 = keep first.id := by
        intro owned member
        obtain ⟨field, -, rfl⟩ := List.mem_map.mp member
        rfl
      rw [List.filter_cons, List.flatMap_cons, List.filter_append, ← ih]
      cases kept : keep first.id with
      | true =>
          have all : first.ownedFields.filter (fun owned => keep owned.1) = first.ownedFields :=
            List.filter_eq_self.mpr fun owned member => (own owned member).trans kept
          rw [if_pos rfl, List.flatMap_cons, all]
      | false =>
          have nothing : first.ownedFields.filter (fun owned => keep owned.1) = [] :=
            List.filter_eq_nil_iff.mpr fun owned member => by simp [own owned member, kept]
          rw [if_neg Bool.false_ne_true, nothing, List.nil_append]

variable {schema : Schema} {decl : TypeDecl} {typeId : TypeId} {fieldId : FieldId}
  {field : FieldDecl} {fields : List FieldDecl}

theorem id_of_requireType (found : schema.requireType typeId = .ok decl) : decl.id = typeId := by
  simpa using List.find?_some (requireType_eq_ok_iff.mp found)

theorem id_of_requireField (among : decl.requireField fieldId = .ok field) :
    field.id = fieldId := by
  obtain ⟨fields, -, isField⟩ := TypeDecl.requireField_eq_ok_iff.mp among
  simpa using List.find?_some isField

theorem exists_ownedFields_perm (found : schema.requireType typeId = .ok decl) :
    ∃ others, schema.ownedFields.Perm (decl.ownedFields ++ others) ∧
      ∀ f : TypeDecl → TypeDecl,
        (schema.updateType typeId f).ownedFields.Perm ((f decl).ownedFields ++ others) := by
  have among := requireType_eq_ok_iff.mp found
  refine ⟨(schema.types.eraseP fun other => other.id = typeId).flatMap TypeDecl.ownedFields,
    ?_, fun f => ?_⟩
  · exact (perm_cons_eraseP among).flatMap_right TypeDecl.ownedFields
  · exact (updateFirst_perm among).flatMap_right TypeDecl.ownedFields

theorem ownedFields_insert_perm {new : FieldDecl} {f : List FieldDecl → List FieldDecl}
    (adds : ∀ fields, (f fields).Perm (new :: fields))
    (found : schema.requireType typeId = .ok decl) (isObject : decl.body = .object fields) :
    (schema.updateType typeId (TypeDecl.mapFields f)).ownedFields.Perm
      ((typeId, new) :: schema.ownedFields) := by
  obtain ⟨others, before, behind⟩ := exists_ownedFields_perm found
  have own : (decl.mapFields f).ownedFields.Perm ((typeId, new) :: decl.ownedFields) := by
    rw [TypeDecl.ownedFields_mapFields isObject, TypeDecl.ownedFields, TypeDecl.fields, isObject,
      id_of_requireType found]
    exact (adds fields).map _
  exact (behind _).trans ((own.append_right others).trans (before.symm.cons _))

theorem ownedFields_removeField_perm (found : schema.requireType typeId = .ok decl)
    (among : decl.requireField fieldId = .ok field) :
    schema.ownedFields.Perm
      ((typeId, field) :: (schema.updateType typeId (TypeDecl.removeField fieldId)).ownedFields) := by
  obtain ⟨others, before, behind⟩ := exists_ownedFields_perm found
  obtain ⟨fields, isObject, isField⟩ := TypeDecl.requireField_eq_ok_iff.mp among
  have own : decl.ownedFields.Perm ((typeId, field) :: (decl.removeField fieldId).ownedFields) := by
    rw [TypeDecl.removeField, TypeDecl.ownedFields_mapFields isObject, TypeDecl.ownedFields,
      TypeDecl.fields, isObject, id_of_requireType found]
    exact (perm_cons_eraseP isField).map _
  exact before.trans ((own.append_right others).trans ((behind _).symm.cons _))

end Schema

end SdlWorkbench
