import SdlWorkbench.Proofs.Name.Unused
import SdlWorkbench.Proofs.Schema.Reachable
import SdlWorkbench.Proofs.Schema.Writing
/-!
Names that clash: two types of one name, two fields of a type with one name, an enum value that stands
twice.

Texts may bring clashes with them, so what edits keep is not that names differ but that no clash is
there beyond those that are tolerated.  An edit tolerates what it found.  With nothing tolerated the
same invariant says that all names differ, which holds of whatever edits build from the empty schema.
-/

namespace SdlWorkbench

/-- A change after which an element stands to the others as it did before. -/
theorem pairwise_updateFirst {α : Type} {R : α → α → Prop} {p : α → Bool} {f : α → α}
    (left : ∀ {a b}, R a b → R (f a) b) (right : ∀ {a b}, R a b → R a (f b)) {items : List α}
    (pairs : items.Pairwise R) : (updateFirst p f items).Pairwise R := by
  induction items with
  | nil => exact pairs
  | cons first rest ih =>
      obtain ⟨firstPairs, restPairs⟩ := List.pairwise_cons.mp pairs
      rw [updateFirst]
      split
      · exact List.pairwise_cons.mpr ⟨fun other member => left (firstPairs other member), restPairs⟩
      · exact List.pairwise_cons.mpr
          ⟨forall_mem_updateFirst (fun _ => right) firstPairs, ih restPairs⟩

/-- Two elements of one name are a pair that is let pass. -/
def Passes {α κ : Type} (name : α → Name) (key : α → κ) (pass : κ → κ → Prop) (left right : α) :
    Prop :=
  name left = name right → pass (key left) (key right)

section Passes

variable {α κ : Type} {name : α → Name} {key : α → κ} {pass : κ → κ → Prop} {items : List α}

theorem pairwise_updateFirst_of_keeps {p : α → Bool} {f : α → α}
    (keeps : ∀ item, name (f item) = name item ∧ key (f item) = key item)
    (pairs : items.Pairwise (Passes name key pass)) :
    (updateFirst p f items).Pairwise (Passes name key pass) := by
  refine pairwise_updateFirst ?_ ?_ pairs
  · intro left right pair
    rw [Passes, (keeps left).1, (keeps left).2]
    exact pair
  · intro left right pair
    rw [Passes, (keeps right).1, (keeps right).2]
    exact pair

theorem pairwise_cons_of_new_name {new : α} (pairs : items.Pairwise (Passes name key pass))
    (newName : name new ∉ items.map name) : (new :: items).Pairwise (Passes name key pass) := by
  refine List.pairwise_cons.mpr ⟨?_, pairs⟩
  intro other member same
  rw [same] at newName
  exact absurd (List.mem_map_of_mem member) newName

theorem pairwise_passes_of_perm (symmetric : ∀ {left right}, pass left right → pass right left)
    {others : List α} (perm : items.Perm others) (pairs : others.Pairwise (Passes name key pass)) :
    items.Pairwise (Passes name key pass) :=
  perm.symm.pairwise pairs fun pair same => symmetric (pair same.symm)

end Passes

/-- The clashes that are let pass: which types may have one name, which fields of a type may, and how
often an enum may hold a value. -/
structure Tolerance where
  types : TypeId → TypeId → Prop
  fields : TypeId → FieldId → FieldId → Prop
  values : TypeId → Name → Nat
  types_symm : ∀ {left right : TypeId}, types left right → types right left
  fields_symm : ∀ {owner : TypeId} {left right : FieldId},
    fields owner left right → fields owner right left

namespace Tolerance

variable (tolerance : Tolerance)

def PairOfTypes : TypeDecl → TypeDecl → Prop :=
  Passes (fun decl => decl.name) (fun decl => decl.id) tolerance.types

def PairOfFields (owner : TypeId) : FieldDecl → FieldDecl → Prop :=
  Passes (fun field => field.name) (fun field => field.id) (tolerance.fields owner)

end Tolerance

variable {tolerance : Tolerance}

def TypeDecl.Tolerated (tolerance : Tolerance) (decl : TypeDecl) : Prop :=
  decl.fields.Pairwise (tolerance.PairOfFields decl.id) ∧
    ∀ value, decl.values.count value ≤ max 1 (tolerance.values decl.id value)

def Schema.Tolerated (tolerance : Tolerance) (schema : Schema) : Prop :=
  schema.types.Pairwise tolerance.PairOfTypes ∧ ∀ decl ∈ schema.types, decl.Tolerated tolerance

namespace TypeDecl

variable {decl : TypeDecl}

theorem Tolerated.mapFields (tolerated : decl.Tolerated tolerance)
    {f : List FieldDecl → List FieldDecl}
    (kept : (f decl.fields).Pairwise (tolerance.PairOfFields decl.id)) :
    (decl.mapFields f).Tolerated tolerance := by
  obtain ⟨⟨name, description, directives, body⟩, typeId⟩ := decl
  cases body with
  | object fields => exact ⟨kept, tolerated.2⟩
  | enumeration values => exact tolerated

theorem Tolerated.mapValues (tolerated : decl.Tolerated tolerance) {f : List Name → List Name}
    (kept : ∀ value, (f decl.values).count value ≤ max 1 (tolerance.values decl.id value)) :
    (decl.mapValues f).Tolerated tolerance := by
  obtain ⟨⟨name, description, directives, body⟩, typeId⟩ := decl
  cases body with
  | object fields => exact tolerated
  | enumeration values => exact ⟨tolerated.1, kept⟩

theorem Tolerated.removeField (tolerated : decl.Tolerated tolerance) (fieldId : FieldId) :
    (decl.removeField fieldId).Tolerated tolerance :=
  tolerated.mapFields (tolerated.1.sublist List.eraseP_sublist)

theorem Tolerated.updateField (tolerated : decl.Tolerated tolerance) (fieldId : FieldId)
    {f : FieldDecl → FieldDecl} (keeps : ∀ field : FieldDecl, (f field).name = field.name ∧
      (f field).id = field.id) : (decl.updateField fieldId f).Tolerated tolerance :=
  tolerated.mapFields (pairwise_updateFirst_of_keeps keeps tolerated.1)

theorem Tolerated.renameField (tolerated : decl.Tolerated tolerance) {fieldId : FieldId}
    {field : FieldDecl} (found : decl.requireField fieldId = .ok field) {newName : Name}
    (free : (decl.fields.eraseP fun other => other.id = fieldId).any
      (fun other => other.name = newName) = false) :
    (decl.updateField fieldId fun other => { other with name := newName }).Tolerated tolerance := by
  obtain ⟨fields, isObject, among⟩ := requireField_eq_ok_iff.mp found
  refine tolerated.mapFields ?_
  rw [TypeDecl.fields, isObject, Body.fields] at free ⊢
  refine pairwise_passes_of_perm tolerance.fields_symm (updateFirst_perm among)
    (pairwise_cons_of_new_name ?_ ?_)
  · have pairs := tolerated.1
    rw [TypeDecl.fields, isObject] at pairs
    exact pairs.sublist List.eraseP_sublist
  · simpa using free

theorem Tolerated.insertField (tolerated : decl.Tolerated tolerance) {new : FieldDecl}
    (newName : new.name ∉ decl.fields.map fun field => field.name) (p : FieldDecl → Bool) :
    (decl.mapFields (insertBefore p new)).Tolerated tolerance :=
  tolerated.mapFields (pairwise_passes_of_perm tolerance.fields_symm
    (insertBefore_perm new decl.fields) (pairwise_cons_of_new_name tolerated.1 newName))

theorem Tolerated.appendField (tolerated : decl.Tolerated tolerance) {new : FieldDecl}
    (newName : new.name ∉ decl.fields.map fun field => field.name) :
    (decl.mapFields (· ++ [new])).Tolerated tolerance :=
  tolerated.mapFields (pairwise_passes_of_perm tolerance.fields_symm
    (List.perm_append_singleton new decl.fields) (pairwise_cons_of_new_name tolerated.1 newName))

/-- Moving a field within its type leaves the same fields in another order. -/
theorem Tolerated.reorderField (tolerated : decl.Tolerated tolerance) {fieldId : FieldId}
    {field : FieldDecl} (found : decl.requireField fieldId = .ok field) (p : FieldDecl → Bool) :
    ((decl.removeField fieldId).mapFields (insertBefore p field)).Tolerated tolerance := by
  obtain ⟨⟨name, description, directives, body⟩, typeId⟩ := decl
  obtain ⟨fields, isObject, among⟩ := requireField_eq_ok_iff.mp found
  cases isObject
  have sameFields := perm_cons_eraseP among
  have reordered := (insertBefore_perm (p := p) field _).trans sameFields.symm
  exact ⟨pairwise_passes_of_perm tolerance.fields_symm reordered tolerated.1, tolerated.2⟩

theorem Tolerated.appendValue (tolerated : decl.Tolerated tolerance) {new : Name}
    (absent : new ∉ decl.values) : (decl.mapValues (· ++ [new])).Tolerated tolerance := by
  refine tolerated.mapValues fun value => ?_
  rw [List.count_append]
  by_cases same : new = value
  · subst same
    rw [List.count_eq_zero.mpr absent, List.count_singleton_self]
    omega
  · rw [List.count_singleton, beq_false_of_ne same]
    exact tolerated.2 value

theorem Tolerated.filterValues (tolerated : decl.Tolerated tolerance) (p : Name → Bool) :
    (decl.mapValues (List.filter p)).Tolerated tolerance :=
  tolerated.mapValues fun value =>
    (List.filter_sublist.count_le value).trans (tolerated.2 value)

end TypeDecl

namespace Schema

variable {schema after : Schema} {typeId : TypeId} {fieldId : FieldId}

theorem Tolerated.of_requireType (tolerated : schema.Tolerated tolerance) {decl : TypeDecl}
    (found : schema.requireType typeId = .ok decl) : decl.Tolerated tolerance :=
  tolerated.2 decl (mem_types_of_requireType found)

theorem Tolerated.updateType (tolerated : schema.Tolerated tolerance) {f : TypeDecl → TypeDecl}
    (keeps : ∀ decl : TypeDecl, (f decl).name = decl.name ∧ (f decl).id = decl.id)
    (good : ∀ decl, schema.requireType typeId = .ok decl → (f decl).Tolerated tolerance) :
    (schema.updateType typeId f).Tolerated tolerance := by
  constructor
  · exact pairwise_updateFirst_of_keeps keeps tolerated.1
  · intro decl member
    rcases mem_updateFirst member with old | ⟨found, among, rfl⟩
    · exact tolerated.2 decl old
    · exact good found (requireType_eq_ok_iff.mpr among)

theorem Tolerated.updateField (tolerated : schema.Tolerated tolerance) {f : FieldDecl → FieldDecl}
    (keeps : ∀ field : FieldDecl, (f field).name = field.name ∧ (f field).id = field.id) :
    (schema.updateType typeId (TypeDecl.updateField fieldId f)).Tolerated tolerance :=
  tolerated.updateType (fun _ => ⟨rfl, rfl⟩) fun _ found =>
    (tolerated.of_requireType found).updateField fieldId keeps

theorem Tolerated.changeField (tolerated : schema.Tolerated tolerance) {f : FieldDecl → FieldDecl}
    (done : schema.changeField typeId fieldId f = .ok after)
    (keeps : ∀ field : FieldDecl, (f field).name = field.name ∧ (f field).id = field.id) :
    after.Tolerated tolerance := by
  obtain ⟨_, -, _, -, rfl⟩ := changeField_eq_ok_iff.mp done
  exact tolerated.updateField keeps

theorem Tolerated.describe (tolerated : schema.Tolerated tolerance) (description : Option Text)
    (target : EditTarget) : (schema.describe description target).Tolerated tolerance := by
  cases target with
  | type typeId =>
      exact tolerated.updateType (fun _ => ⟨rfl, rfl⟩) fun decl found =>
        (tolerated.of_requireType found : decl.Tolerated tolerance)
  | field typeId fieldId => exact tolerated.updateField fun _ => ⟨rfl, rfl⟩

theorem Tolerated.updateDirectives (tolerated : schema.Tolerated tolerance) (target : EditTarget)
    (f : List Directive → List Directive) :
    (schema.updateDirectives target f).Tolerated tolerance := by
  cases target with
  | type typeId =>
      exact tolerated.updateType (fun _ => ⟨rfl, rfl⟩) fun decl found =>
        (tolerated.of_requireType found : decl.Tolerated tolerance)
  | field typeId fieldId => exact tolerated.updateField fun _ => ⟨rfl, rfl⟩

theorem Tolerated.setDirective (tolerated : schema.Tolerated tolerance) {target : EditTarget}
    {directive : Directive} (done : schema.setDirective target directive = .ok after) :
    after.Tolerated tolerance := by
  obtain ⟨-, _, -, rfl⟩ := setDirective_eq_ok_iff.mp done
  exact tolerated.updateDirectives target _

theorem Tolerated.addType (tolerated : schema.Tolerated tolerance) (fresh : FreshIds)
    (kind : TypeKind) (baseName : Name) :
    (schema.addType fresh kind baseName).2.Tolerated tolerance := by
  constructor
  · refine pairwise_passes_of_perm tolerance.types_symm (List.perm_append_singleton _ _)
      (pairwise_cons_of_new_name tolerated.1 ?_)
    exact Name.unused_not_mem baseName _
  · intro decl member
    rcases List.mem_append.mp member with old | new
    · exact tolerated.2 decl old
    · obtain rfl := List.mem_singleton.mp new
      cases kind with
      | object => exact ⟨List.Pairwise.nil, fun value => Nat.zero_le _⟩
      | enumeration =>
          have different : placeholderValues.Nodup := by decide
          exact ⟨List.Pairwise.nil, fun value =>
            (List.nodup_iff_count_le_one.mp different value).trans (le_max_left 1 _)⟩

theorem Tolerated.renameType (tolerated : schema.Tolerated tolerance) {newName : Name}
    (done : schema.renameType typeId newName = .ok after) : after.Tolerated tolerance := by
  obtain ⟨decl, found, free, rfl⟩ := renameType_eq_ok_iff.mp done
  constructor
  · refine pairwise_passes_of_perm tolerance.types_symm
      (updateFirst_perm (requireType_eq_ok_iff.mp found)) (pairwise_cons_of_new_name ?_ ?_)
    · exact tolerated.1.sublist List.eraseP_sublist
    · simpa using free
  · intro other member
    rcases mem_updateFirst member with old | ⟨found, among, rfl⟩
    · exact tolerated.2 other old
    · exact tolerated.2 found (List.mem_of_find?_eq_some among)

theorem Tolerated.moved (tolerated : schema.Tolerated tolerance) {source target : TypeId}
    {sourceDecl targetDecl : TypeDecl} {field : FieldDecl} {targetFields : List FieldDecl}
    (sourceFound : schema.requireType source = .ok sourceDecl)
    (targetFound : schema.requireType target = .ok targetDecl)
    (fieldFound : sourceDecl.requireField fieldId = .ok field)
    (isObject : targetDecl.body = .object targetFields) (before : Option FieldId) :
    (schema.moved source field fieldId target targetFields before).Tolerated tolerance := by
  unfold Schema.moved
  dsimp only
  split
  · split
    · exact tolerated
    · refine tolerated.updateType (fun _ => ⟨rfl, rfl⟩) fun decl found => ?_
      rw [sourceFound] at found
      cases found
      exact (tolerated.of_requireType sourceFound).reorderField fieldFound _
  · next across =>
      have removed : (schema.updateType source (TypeDecl.removeField fieldId)).Tolerated tolerance :=
        tolerated.updateType (fun _ => ⟨rfl, rfl⟩) fun _ found =>
          (tolerated.of_requireType found).removeField fieldId
      refine removed.updateType (fun _ => ⟨rfl, rfl⟩) fun decl found => ?_
      rw [requireType_updateType_of_ne (f := TypeDecl.removeField fieldId) (fun _ => rfl) across,
        targetFound] at found
      cases found
      refine (tolerated.of_requireType targetFound).insertField ?_ _
      rw [TypeDecl.fields, isObject]
      exact Name.unused_not_mem field.name _

/-- Every edit leaves no clash but those that were tolerated before. -/
theorem Tolerated.apply (tolerated : schema.Tolerated tolerance) {fresh : FreshIds} {edit : Edit}
    {outcome : EditOutcome} (done : schema.apply fresh edit = .ok (outcome, after)) :
    after.Tolerated tolerance := by
  -- What remains of a request is the operation that it stands for.
  cases edit <;> simp only [Schema.apply, Except.bind_eq_ok_iff, Except.pure_eq_ok_iff,
    Except.ok.injEq, Prod.mk.injEq, Prod.exists] at done
  case addType kind baseName =>
    obtain ⟨-, rfl⟩ := done
    exact tolerated.addType fresh kind baseName
  case renameType typeId newName =>
    obtain ⟨_, renamed, -, rfl⟩ := done
    exact tolerated.renameType renamed
  case deleteType typeId =>
    obtain ⟨_, _, deleted, -, rfl⟩ := done
    obtain ⟨-, rfl⟩ := deleteType_eq_ok_iff.mp deleted
    exact ⟨tolerated.1.sublist List.eraseP_sublist,
      fun decl member => tolerated.2 decl (List.mem_of_mem_eraseP member)⟩
  case addField typeId baseName =>
    obtain ⟨name, _, added, -, rfl⟩ := done
    obtain ⟨decl, found, fields, isObject, rfl, rfl⟩ := addField_eq_ok_iff.mp added
    refine tolerated.updateType (fun _ => ⟨rfl, rfl⟩) fun other again => ?_
    rw [found] at again
    cases again
    refine (tolerated.of_requireType found).appendField ?_
    rw [TypeDecl.fields, isObject]
    exact Name.unused_not_mem baseName _
  case renameField typeId fieldId newName =>
    obtain ⟨_, renamed, -, rfl⟩ := done
    obtain ⟨decl, found, field, among, free, rfl⟩ := renameField_eq_ok_iff.mp renamed
    refine tolerated.updateType (fun _ => ⟨rfl, rfl⟩) fun other again => ?_
    rw [found] at again
    cases again
    exact (tolerated.of_requireType found).renameField among free
  case deleteField typeId fieldId =>
    obtain ⟨_, _, deleted, -, rfl⟩ := done
    obtain ⟨_, -, -, rfl⟩ := deleteField_eq_ok_iff.mp deleted
    exact tolerated.updateType (fun _ => ⟨rfl, rfl⟩) fun _ found =>
      (tolerated.of_requireType found).removeField fieldId
  case moveField source fieldId target before =>
    obtain ⟨_, _, relocated, -, rfl⟩ := done
    obtain ⟨_, sourceFound, _, targetFound, _, fieldFound, _, isObject, -, rfl⟩ :=
      moveField_eq_ok_iff.mp relocated
    exact tolerated.moved sourceFound targetFound fieldFound isObject before
  case setFieldType typeId fieldId typeName =>
    obtain ⟨_, changed, -, rfl⟩ := done
    exact tolerated.changeField changed fun _ => ⟨rfl, rfl⟩
  case setFieldList typeId fieldId isList =>
    obtain ⟨_, changed, -, rfl⟩ := done
    exact tolerated.changeField changed fun _ => ⟨rfl, rfl⟩
  case setFieldRequired typeId fieldId isRequired =>
    obtain ⟨_, changed, -, rfl⟩ := done
    exact tolerated.changeField changed fun _ => ⟨rfl, rfl⟩
  case setDescription target description =>
    obtain ⟨_, described, -, rfl⟩ := done
    obtain rfl := setDescription_eq_ok described
    exact tolerated.describe _ target
  case addEnumValue typeId baseValue =>
    obtain ⟨value, _, added, -, rfl⟩ := done
    obtain ⟨decl, found, values, isEnum, rfl, rfl⟩ := addEnumValue_eq_ok_iff.mp added
    refine tolerated.updateType (fun _ => ⟨rfl, rfl⟩) fun other again => ?_
    rw [found] at again
    cases again
    refine (tolerated.of_requireType found).appendValue ?_
    rw [TypeDecl.values, isEnum]
    exact Name.unused_not_mem baseValue values
  case deleteEnumValue typeId value =>
    obtain ⟨_, deleted, -, rfl⟩ := done
    obtain ⟨_, -, _, -, -, rfl⟩ := deleteEnumValue_eq_ok_iff.mp deleted
    exact tolerated.updateType (fun _ => ⟨rfl, rfl⟩) fun _ found =>
      (tolerated.of_requireType found).filterValues _
  case setDirective target directive =>
    obtain ⟨_, placed, -, rfl⟩ := done
    exact tolerated.setDirective placed
  case removeDirective target name =>
    obtain ⟨_, _, removed, -, rfl⟩ := done
    obtain ⟨_, -, -, rfl⟩ := removeDirective_eq_ok_iff.mp removed
    exact tolerated.updateDirectives target _
  case setAccessScope target scope =>
    obtain ⟨_, placed, -, rfl⟩ := done
    exact tolerated.setDirective placed

/-- Two different types have one name. -/
def TypesClash (schema : Schema) (left right : TypeId) : Prop :=
  left ≠ right ∧ ∃ a ∈ schema.types, ∃ b ∈ schema.types, a.id = left ∧ b.id = right ∧
    a.name = b.name

/-- Two different fields of one type have one name. -/
def FieldsClash (schema : Schema) (owner : TypeId) (left right : FieldId) : Prop :=
  left ≠ right ∧ ∃ decl ∈ schema.types, decl.id = owner ∧ ∃ a ∈ decl.fields, ∃ b ∈ decl.fields,
    a.id = left ∧ b.id = right ∧ a.name = b.name

/-- The clashes of a schema, as those that are let pass. -/
def clashes (schema : Schema) : Tolerance where
  types := schema.TypesClash
  fields := schema.FieldsClash
  values := fun owner value => (schema.values owner).count value
  types_symm := by
    rintro left right ⟨different, a, aMember, b, bMember, aId, bId, same⟩
    exact ⟨different.symm, b, bMember, a, aMember, bId, aId, same.symm⟩
  fields_symm := by
    rintro owner left right ⟨different, decl, member, owned, a, aMember, b, bMember, aId, bId, same⟩
    exact ⟨different.symm, decl, member, owned, b, bMember, a, aMember, bId, aId, same.symm⟩

theorem tolerated_clashes (distinct : schema.IdsDistinct) : schema.Tolerated schema.clashes := by
  constructor
  · refine List.Pairwise.imp_of_mem ?_ (List.pairwise_map.mp distinct.types)
    intro left right leftMember rightMember different same
    exact ⟨different, left, leftMember, right, rightMember, rfl, rfl, same⟩
  · intro decl member
    have fieldIds := (List.nodup_flatMap.mp distinct.fields).1 decl member
    constructor
    · refine List.Pairwise.imp_of_mem ?_ (List.pairwise_map.mp fieldIds)
      intro left right leftMember rightMember different same
      exact ⟨different, decl, member, rfl, left, leftMember, right, rightMember, rfl, rfl, same⟩
    · intro value
      have sameValues : schema.values decl.id = decl.values := by
        rw [Schema.values, type?_of_mem distinct member]
        rfl
      change _ ≤ max 1 ((schema.values decl.id).count value)
      rw [sameValues]
      exact le_max_right 1 _

def noClashes : Tolerance where
  types := fun _ _ => False
  fields := fun _ _ _ => False
  values := fun _ _ => 0
  types_symm := id
  fields_symm := id

theorem names_nodup_of_noClashes (tolerated : schema.Tolerated noClashes) :
    (schema.types.map fun decl => decl.name).Nodup ∧ ∀ decl ∈ schema.types,
      (decl.fields.map fun field => field.name).Nodup ∧ decl.values.Nodup := by
  refine ⟨List.pairwise_map.mpr tolerated.1, fun decl member => ?_⟩
  obtain ⟨fieldPairs, counts⟩ := tolerated.2 decl member
  exact ⟨List.pairwise_map.mpr fieldPairs, List.nodup_iff_count_le_one.mpr counts⟩

theorem Reachable.names_nodup (reachable : schema.Reachable) :
    (schema.types.map fun decl => decl.name).Nodup ∧ ∀ decl ∈ schema.types,
      (decl.fields.map fun field => field.name).Nodup ∧ decl.values.Nodup := by
  refine names_nodup_of_noClashes (reachable.induction ?_ fun before done => before.apply done)
  refine ⟨List.Pairwise.nil, fun decl impossible => ?_⟩
  cases impossible

/-- An edit makes no clash: types of one name, fields of one type and name, and repeated values were
there before it.  So there are none in what edits build from the empty schema. -/
theorem clash_of_request (schema : Schema) (fresh : FreshIds) (edit : Edit) :
    (schema.IdsDistinct →
      ((schema.request fresh edit).types.Pairwise fun left right =>
        left.name = right.name → schema.TypesClash left.id right.id) ∧
      ∀ decl ∈ (schema.request fresh edit).types,
        (decl.fields.Pairwise fun left right =>
          left.name = right.name → schema.FieldsClash decl.id left.id right.id) ∧
        ∀ value, decl.values.count value ≤ max 1 ((schema.values decl.id).count value)) ∧
    (schema.Reachable →
      (schema.types.map fun decl => decl.name).Nodup ∧ ∀ decl ∈ schema.types,
        (decl.fields.map fun field => field.name).Nodup ∧ decl.values.Nodup) := by
  refine ⟨fun distinct => ?_, Reachable.names_nodup⟩
  -- The edit tolerates just the clashes that it finds.
  have before := tolerated_clashes distinct
  have kept : (schema.request fresh edit).Tolerated schema.clashes :=
    request_keeps before before.apply
  exact kept

/-- Two types of one name, the first with two fields of one name, the second with a value twice. -/
def twins : Schema :=
  ⟨[{ name := Name.literal "A", id := Id.ofNat 0, body := .object
        [{ name := Name.literal "a", typeName := Name.literal "A", id := Id.ofNat 0 },
          { name := Name.literal "a", typeName := Name.literal "A", id := Id.ofNat 1 }] },
    { name := Name.literal "A", id := Id.ofNat 1, body := .enumeration
        [Name.literal "a", Name.literal "a"] }]⟩

theorem twins_idsDistinct : twins.IdsDistinct :=
  ⟨by decide, by decide⟩

theorem twins_clash_of_request :
    twins.IdsDistinct ∧
    ((twins.request ⟨Id.ofNat 2, Id.ofNat 2⟩ (.addType .object (Name.literal "A"))).types.Pairwise
      fun left right => left.name = right.name → twins.TypesClash left.id right.id) ∧
    (note (some "a".toList)).Reachable ∧
    ((note (some "a".toList)).types.map fun decl => decl.name).Nodup :=
  have reachable := (reachable_note (by decide) : (note (some "a".toList)).Reachable)
  ⟨twins_idsDistinct,
    ((clash_of_request twins ⟨Id.ofNat 2, Id.ofNat 2⟩
      (.addType .object (Name.literal "A"))).1 twins_idsDistinct).1,
    reachable,
    ((clash_of_request (note (some "a".toList)) ⟨Id.ofNat 2, Id.ofNat 2⟩
      (.addType .object (Name.literal "A"))).2 reachable).1⟩

end Schema

end SdlWorkbench
