import SdlWorkbench.Proofs.Schema.Frame
import SdlWorkbench.Proofs.Name.Unused
/-!
Where a moved field stands.

A move takes a field from among the fields of its source and puts it among those of its target: in front
of a field that the target has, where it stood when it is to stand before itself, and at the end
otherwise.  It takes another name only where a field of another type has its own.
-/

namespace SdlWorkbench

section Lists

variable {α : Type} {p : α → Bool} {new : α}

theorem insertBefore_append {front back : List α} {next : α}
    (passed : ∀ item ∈ front, p item = false) (found : p next = true) :
    insertBefore p new (front ++ next :: back) = front ++ new :: next :: back := by
  induction front with
  | nil => rw [List.nil_append, insertBefore, if_pos found, List.nil_append]
  | cons first rest ih =>
      obtain ⟨here, later⟩ := List.forall_mem_cons.mp passed
      rw [List.cons_append, insertBefore, here, if_neg Bool.false_ne_true, ih later,
        List.cons_append]

theorem insertBefore_of_absent {items : List α} (absent : ∀ item ∈ items, p item = false) :
    insertBefore p new items = items ++ [new] := by
  induction items with
  | nil => rfl
  | cons first rest ih =>
      obtain ⟨here, later⟩ := List.forall_mem_cons.mp absent
      rw [insertBefore, here, if_neg Bool.false_ne_true, ih later, List.cons_append]

end Lists

namespace Schema

variable {schema after : Schema} {source target typeId : TypeId} {decl : TypeDecl}
  {field : FieldDecl} {fieldId : FieldId} {fields : List FieldDecl}

theorem fields_eq_of_requireType (found : schema.requireType typeId = .ok decl) :
    schema.fields typeId = decl.fields := by
  rw [Schema.fields, type?, requireType_eq_ok_iff.mp found]
  rfl

/-- The fields of a type but one. -/
def fieldsBut (schema : Schema) (typeId : TypeId) (fieldId : FieldId) : List FieldDecl :=
  (schema.fields typeId).filter fun other => other.id ≠ fieldId

theorem fieldIds_nodup (distinct : schema.IdsDistinct)
    (found : schema.requireType typeId = .ok decl) :
    (decl.fields.map fun field => field.id).Nodup :=
  (List.nodup_flatMap.mp distinct.fields).1 decl (mem_types_of_requireType found)

theorem eraseP_eq_fieldsBut (distinct : schema.IdsDistinct)
    (found : schema.requireType typeId = .ok decl) (fieldId : FieldId) :
    (decl.fields.eraseP fun other => other.id = fieldId) = schema.fieldsBut typeId fieldId := by
  rw [fieldsBut, fields_eq_of_requireType found,
    eraseP_eq_filter (fieldIds_nodup distinct found)]

theorem field?_eq_some_of_mem {types : List TypeDecl}
    (different : (types.flatMap fun decl => decl.fields.map fun field => field.id).Nodup)
    (member : decl ∈ types) (among : field ∈ decl.fields) :
    Schema.field? ⟨types⟩ field.id = some (decl, field) := by
  induction types with
  | nil => cases member
  | cons first rest ih =>
      rw [List.flatMap_cons, List.nodup_append] at different
      obtain ⟨own, others, apart⟩ := different
      rw [Schema.field?, List.findSome?_cons]
      rcases List.mem_cons.mp member with rfl | later
      · rw [TypeDecl.field?, find?_of_mem own among]
        rfl
      · -- The ids of the first declaration are none of the others'.
        have elsewhere : first.field? field.id = none := by
          refine List.find?_eq_none.mpr fun other otherMember => ?_
          have inRest : field.id ∈ rest.flatMap fun decl => decl.fields.map fun field => field.id :=
            List.mem_flatMap.mpr ⟨decl, later, List.mem_map_of_mem among⟩
          simpa using apart other.id (List.mem_map_of_mem otherMember) field.id inRest
        rw [elsewhere]
        exact ih others later

/-- Where ids differ, a field has one owner. -/
theorem field?_of_requireType (distinct : schema.IdsDistinct)
    (found : schema.requireType typeId = .ok decl) (among : field ∈ decl.fields) :
    schema.field? field.id = some (decl, field) :=
  field?_eq_some_of_mem distinct.fields (mem_types_of_requireType found) among

theorem fieldsBut_of_ne (distinct : schema.IdsDistinct) {targetDecl : TypeDecl}
    (sourceFound : schema.requireType source = .ok decl) (among : field ∈ decl.fields)
    (targetFound : schema.requireType target = .ok targetDecl) (across : source ≠ target) :
    schema.fieldsBut target field.id = targetDecl.fields := by
  rw [fieldsBut, fields_eq_of_requireType targetFound, List.filter_eq_self]
  intro other otherAmong
  refine decide_eq_true fun same => across ?_
  have owned := field?_of_requireType distinct sourceFound among
  rw [← same, field?_of_requireType distinct targetFound otherAmong] at owned
  cases owned
  exact (id_of_requireType sourceFound).symm.trans (id_of_requireType targetFound)

/-- The moved field as it is in the target. -/
def arriving (source : TypeId) (field : FieldDecl) (target : TypeId)
    (fields : List FieldDecl) : FieldDecl :=
  if source = target then field else renamedInto fields field

def movedInto (schema : Schema) (source : TypeId) (new : FieldDecl) (target : TypeId)
    (before : Option FieldId) : List FieldDecl :=
  if source = target ∧ before = some new.id then schema.fields target
  else insertBefore (fun other => before = some other.id) new (schema.fieldsBut target new.id)

theorem arriving_eq (source : TypeId) (field : FieldDecl) (target : TypeId)
    (fields : List FieldDecl) : arriving source field target fields =
      { field with name := (arriving source field target fields).name } := by
  rw [arriving]
  split <;> rfl

theorem arriving_id (source : TypeId) (field : FieldDecl) (target : TypeId)
    (fields : List FieldDecl) : (arriving source field target fields).id = field.id := by
  rw [arriving_eq]

theorem exists_owner_moved (distinct : schema.IdsDistinct) {targetDecl : TypeDecl}
    (sourceFound : schema.requireType source = .ok decl)
    (targetFound : schema.requireType target = .ok targetDecl)
    (fieldFound : decl.requireField fieldId = .ok field)
    (isObject : targetDecl.body = .object fields) (before : Option FieldId) :
    ∃ owner, (schema.moved source field fieldId target fields before).requireType target =
        .ok owner ∧
      owner.fields = schema.movedInto source (arriving source field target fields) target before := by
  obtain rfl := id_of_requireField fieldFound
  have among := TypeDecl.mem_fields_of_requireField fieldFound
  unfold moved
  dsimp only
  by_cases within : source = target
  · subst within
    rw [sourceFound] at targetFound
    cases targetFound
    rw [if_pos rfl, arriving, if_pos rfl, movedInto]
    by_cases stays : before = some field.id
    · rw [if_pos stays, if_pos ⟨rfl, stays⟩]
      exact ⟨decl, sourceFound, (fields_eq_of_requireType sourceFound).symm⟩
    · rw [if_neg stays, if_neg fun both => stays both.2, ← eraseP_eq_fieldsBut distinct sourceFound]
      let reinsert (decl : TypeDecl) : TypeDecl := (decl.removeField field.id).mapFields
        (insertBefore (fun other => before = some other.id) field)
      have found := requireType_updateType_self (f := reinsert) (fun _ => rfl) sourceFound
      refine ⟨reinsert decl, found, ?_⟩
      simp only [reinsert, TypeDecl.removeField, TypeDecl.fields, TypeDecl.mapFields, isObject,
        Body.mapFields, Body.fields]
  · have kept := (requireType_updateType_of_ne (f := TypeDecl.removeField field.id) (fun _ => rfl)
      within).trans targetFound
    rw [if_neg within, movedInto, if_neg fun both => within both.1, arriving_id,
      fieldsBut_of_ne distinct sourceFound among targetFound within, arriving, if_neg within]
    refine ⟨_, requireType_updateType_self (f := TypeDecl.mapFields _) (fun _ => rfl) kept, ?_⟩
    simp only [TypeDecl.fields, TypeDecl.mapFields, isObject, Body.mapFields, Body.fields]

theorem fields_source_moved (distinct : schema.IdsDistinct)
    (sourceFound : schema.requireType source = .ok decl)
    (fieldFound : decl.requireField fieldId = .ok field) (across : source ≠ target)
    (fields : List FieldDecl) (before : Option FieldId) :
    (schema.moved source field fieldId target fields before).fields source =
      schema.fieldsBut source field.id := by
  obtain rfl := id_of_requireField fieldFound
  obtain ⟨sourceFields, isSource, -⟩ := TypeDecl.requireField_eq_ok_iff.mp fieldFound
  have left : (schema.moved source field field.id target fields before).requireType source =
      .ok (decl.removeField field.id) := by
    unfold moved
    dsimp only
    rw [if_neg across, requireType_updateType_of_ne (f := TypeDecl.mapFields _) (fun _ => rfl)
      across.symm]
    exact requireType_updateType_self (f := TypeDecl.removeField field.id) (fun _ => rfl) sourceFound
  rw [fields_eq_of_requireType left, ← eraseP_eq_fieldsBut distinct sourceFound]
  simp only [TypeDecl.removeField, TypeDecl.fields, TypeDecl.mapFields, isSource, Body.mapFields,
    Body.fields]

/-- What a move of a field leaves, where it then has the given name. -/
structure Relocates (schema : Schema) (source : TypeId) (field : FieldDecl) (target : TypeId)
    (before : Option FieldId) (name : Name) (after : Schema) : Prop where
  /-- In front of the field that was named, if that is another one of the target. -/
  inFront : ∀ front next back, schema.fieldsBut target field.id = front ++ next :: back →
    before = some next.id →
    after.fields target = front ++ { field with name := name } :: next :: back
  /-- Where it stood, if it was to stand before itself. -/
  inPlace : source = target → before = some field.id →
    after.fields target = (schema.fieldsBut target field.id).insertIdx
      ((schema.fields target).findIdx fun other => other.id = field.id) { field with name := name }
  /-- At the end otherwise. -/
  atEnd : (∀ other ∈ schema.fieldsBut target field.id, before ≠ some other.id) →
    ¬ (source = target ∧ before = some field.id) →
    after.fields target = schema.fieldsBut target field.id ++ [{ field with name := name }]
  left : source ≠ target → after.fields source = schema.fieldsBut source field.id
  nameKept : source = target → name = field.name
  nameFree : source ≠ target → field.name.IsFirstFree
    ((schema.fieldsBut target field.id).map fun other => other.name) name
  /-- The target is the owner. -/
  owned : ∃ owner, after.type? target = some owner ∧
    after.field? field.id = some (owner, { field with name := name })

theorem ne_of_fieldsBut_eq (distinct : schema.IdsDistinct)
    (found : schema.requireType typeId = .ok decl) {front back : List FieldDecl} {next : FieldDecl}
    (split : schema.fieldsBut typeId fieldId = front ++ next :: back) :
    ∀ other ∈ front, next.id ≠ other.id := by
  have kept : (schema.fieldsBut typeId fieldId).Sublist decl.fields := by
    rw [fieldsBut, fields_eq_of_requireType found]
    exact List.filter_sublist
  have different := (fieldIds_nodup distinct found).sublist (kept.map _)
  rw [split, List.map_append, List.nodup_append] at different
  intro other member
  exact (different.2.2 other.id (List.mem_map_of_mem member) next.id (by simp)).symm

theorem relocates_moved (distinct : schema.IdsDistinct) {targetDecl : TypeDecl}
    (sourceFound : schema.requireType source = .ok decl)
    (targetFound : schema.requireType target = .ok targetDecl)
    (fieldFound : decl.requireField fieldId = .ok field)
    (isObject : targetDecl.body = .object fields) (before : Option FieldId)
    (stillDistinct : (schema.moved source field fieldId target fields before).IdsDistinct) :
    schema.Relocates source field target before (arriving source field target fields).name
      (schema.moved source field fieldId target fields before) := by
  obtain ⟨owner, ownerFound, ownerFields⟩ :=
    exists_owner_moved distinct sourceFound targetFound fieldFound isObject before
  obtain rfl := id_of_requireField fieldFound
  have among := TypeDecl.mem_fields_of_requireField fieldFound
  have into := (fields_eq_of_requireType ownerFound).trans ownerFields
  rw [movedInto, arriving_id] at into
  constructor
  case inFront =>
    intro front next back split isNext
    have another : next.id ≠ field.id := by
      have member : next ∈ schema.fieldsBut target field.id := by simp [split]
      exact of_decide_eq_true (List.mem_filter.mp member).2
    rw [into, if_neg fun both => another (Option.some.inj (isNext.symm.trans both.2)), split,
      ← arriving_eq]
    refine insertBefore_append (fun other member => ?_) (decide_eq_true isNext)
    have apart := ne_of_fieldsBut_eq distinct targetFound split other member
    exact decide_eq_false fun same => apart (Option.some.inj (isNext.symm.trans same))
  case inPlace =>
    rintro rfl isField
    obtain ⟨sourceFields, isSource, isAmong⟩ := TypeDecl.requireField_eq_ok_iff.mp fieldFound
    rw [into, if_pos ⟨rfl, isField⟩, ← arriving_eq, arriving, if_pos rfl,
      ← eraseP_eq_fieldsBut distinct sourceFound, fields_eq_of_requireType sourceFound,
      TypeDecl.fields, isSource]
    exact (insertIdx_eraseP isAmong).symm
  case atEnd =>
    intro noneNamed notItself
    rw [into, if_neg notItself, ← arriving_eq]
    exact insertBefore_of_absent fun other member => decide_eq_false (noneNamed other member)
  case left => exact fun across => fields_source_moved distinct sourceFound fieldFound across _ _
  case nameKept =>
    intro within
    rw [arriving, if_pos within]
  case nameFree =>
    intro across
    rw [arriving, if_neg across, fieldsBut_of_ne distinct sourceFound among targetFound across,
      TypeDecl.fields, isObject]
    exact Name.unused_isFirstFree field.name _
  case owned =>
    refine ⟨owner, requireType_eq_ok_iff.mp ownerFound, ?_⟩
    have arrived : arriving source field target fields ∈ owner.fields := by
      rw [ownerFields, movedInto]
      split
      · next both =>
          rw [arriving, if_pos both.1, ← both.1, fields_eq_of_requireType sourceFound]
          exact among
      · exact (insertBefore_perm _ _).mem_iff.mpr List.mem_cons_self
    have owned := field?_of_requireType stillDistinct ownerFound arrived
    rwa [arriving_id, arriving_eq] at owned

/-- A move puts the field where it was to stand and tells the name that it then has. -/
theorem relocates_of_apply (distinct : schema.IdsDistinct) {fresh : FreshIds}
    {before : Option FieldId} {outcome : EditOutcome}
    (done : schema.apply fresh (.moveField source fieldId target before) = .ok (outcome, after)) :
    ∃ field ∈ schema.fields source, field.id = fieldId ∧ ∃ name,
      outcome = .fieldMoved fieldId name ∧ schema.Relocates source field target before name after := by
  simp only [Schema.apply, Except.bind_eq_ok_iff, Except.pure_eq_ok_iff, Prod.mk.injEq,
    Prod.exists] at done
  obtain ⟨name, left, relocated, rfl, rfl⟩ := done
  have frame : (Edit.moveField source fieldId target before).Frame fresh schema left :=
    .of_moveField distinct relocated
  obtain ⟨decl, sourceFound, targetDecl, targetFound, field, fieldFound, fields, isObject, named,
    rfl⟩ := moveField_eq_ok_iff.mp relocated
  rw [fields_eq_of_requireType sourceFound]
  refine ⟨field, TypeDecl.mem_fields_of_requireField fieldFound, id_of_requireField fieldFound,
    name, rfl, ?_⟩
  have isName : (arriving source field target fields).name = name := by
    rw [← named, arriving]
    split <;> rfl
  rw [← isName]
  exact relocates_moved distinct sourceFound targetFound fieldFound isObject before
    frame.idsDistinct

/-- The name of the field is taken in the other type, where it comes to stand between the two. -/
theorem homonyms_relocates :
    homonyms.IdsDistinct ∧
    ∃ outcome, homonyms.apply ⟨Id.ofNat 2, Id.ofNat 3⟩
        (.moveField (Id.ofNat 0) (Id.ofNat 0) (Id.ofNat 1) (some (Id.ofNat 2))) =
      .ok (outcome, homonymsTogether) ∧
    ∃ field ∈ homonyms.fields (Id.ofNat 0), field.id = Id.ofNat 0 ∧ ∃ name,
      outcome = .fieldMoved (Id.ofNat 0) name ∧
      homonyms.Relocates (Id.ofNat 0) field (Id.ofNat 1) (some (Id.ofNat 2)) name
        homonymsTogether := by
  have distinct : homonyms.IdsDistinct := ⟨by decide, by decide⟩
  have done : homonyms.apply ⟨Id.ofNat 2, Id.ofNat 3⟩
      (.moveField (Id.ofNat 0) (Id.ofNat 0) (Id.ofNat 1) (some (Id.ofNat 2))) =
        .ok (.fieldMoved (Id.ofNat 0) (Name.literal "shared1"), homonymsTogether) := by
    decide
  exact ⟨distinct, _, done, relocates_of_apply distinct done⟩

end Schema

end SdlWorkbench
