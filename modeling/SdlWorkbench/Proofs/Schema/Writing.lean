import SdlWorkbench.Proofs.Schema.Operations
import Mathlib.Data.List.Basic
/-!
What a write leaves to be looked up, and what ids find.

A write changes the first declaration with an id and keeps the id, so the same declaration is found
there afterwards, changed, and every other one as it was.  Where all ids differ, the first declaration
with an id is the only one.
-/

namespace SdlWorkbench

section Lists

variable {α β : Type} {p q : α → Bool} {f g : α → α}

theorem find?_updateFirst (keeps : ∀ item, p (f item) = p item) (items : List α) :
    (updateFirst p f items).find? p = (items.find? p).map f := by
  induction items with
  | nil => rfl
  | cons first rest ih =>
      rw [updateFirst]
      by_cases holds : p first = true
      · rw [if_pos holds, List.find?_cons_of_pos ((keeps first).trans holds),
          List.find?_cons_of_pos holds, Option.map_some]
      · rw [if_neg holds, List.find?_cons_of_neg holds, List.find?_cons_of_neg holds, ih]

/-- Changing an element that is not looked for, into one that is not looked for either, does not
show. -/
theorem find?_updateFirst_of_apart (before : ∀ item, p item = true → q item = false)
    (after : ∀ item, p item = true → q (f item) = false) (items : List α) :
    (updateFirst p f items).find? q = items.find? q := by
  induction items with
  | nil => rfl
  | cons first rest ih =>
      rw [updateFirst]
      by_cases holds : p first = true
      · rw [if_pos holds, List.find?_cons_of_neg (by simp [after first holds]),
          List.find?_cons_of_neg (by simp [before first holds])]
      · rw [if_neg holds, List.find?_cons, List.find?_cons, ih]

theorem updateFirst_updateFirst (keeps : ∀ item, p (f item) = p item) (items : List α) :
    updateFirst p g (updateFirst p f items) = updateFirst p (g ∘ f) items := by
  induction items with
  | nil => rfl
  | cons first rest ih =>
      rw [updateFirst, updateFirst]
      by_cases holds : p first = true
      · rw [if_pos holds, if_pos holds, updateFirst, if_pos ((keeps first).trans holds)]
        rfl
      · rw [if_neg holds, if_neg holds, updateFirst, if_neg holds, ih]

/-- Only the change to the first element that satisfies the condition matters. -/
theorem updateFirst_congr {items : List α}
    (same : ∀ item, items.find? p = some item → f item = g item) :
    updateFirst p f items = updateFirst p g items := by
  induction items with
  | nil => rfl
  | cons first rest ih =>
      rw [updateFirst, updateFirst]
      by_cases holds : p first = true
      · rw [if_pos holds, if_pos holds, same first (List.find?_cons_of_pos holds)]
      · rw [List.find?_cons_of_neg holds] at same
        rw [if_neg holds, if_neg holds, ih same]

theorem updateFirst_id (items : List α) : updateFirst p id items = items := by
  induction items with
  | nil => rfl
  | cons first rest ih =>
      rw [updateFirst, ih]
      split <;> rfl

theorem mem_updateFirst {items : List α} {item : α} (member : item ∈ updateFirst p f items) :
    item ∈ items ∨ ∃ found, items.find? p = some found ∧ item = f found := by
  induction items with
  | nil => exact .inl member
  | cons first rest ih =>
      rw [updateFirst] at member
      by_cases holds : p first = true
      · rw [if_pos holds] at member
        rcases List.mem_cons.mp member with rfl | later
        · exact .inr ⟨first, List.find?_cons_of_pos holds, rfl⟩
        · exact .inl (List.mem_cons_of_mem first later)
      · rw [if_neg holds] at member
        rcases List.mem_cons.mp member with rfl | later
        · exact .inl List.mem_cons_self
        · rcases ih later with old | ⟨found, among, changed⟩
          · exact .inl (List.mem_cons_of_mem first old)
          · exact .inr ⟨found, by rw [List.find?_cons_of_neg holds, among], changed⟩

theorem updateFirst_perm {items : List α} {found : α}
    (among : items.find? p = some found) :
    (updateFirst p f items).Perm (f found :: items.eraseP p) := by
  induction items with
  | nil => cases among
  | cons first rest ih =>
      rw [updateFirst]
      by_cases holds : p first = true
      · rw [List.find?_cons_of_pos holds] at among
        cases among
        rw [if_pos holds, List.eraseP_cons_of_pos holds]
      · rw [List.find?_cons_of_neg holds] at among
        rw [if_neg holds, List.eraseP_cons_of_neg holds]
        exact ((ih among).cons first).trans (.swap _ _ _)

theorem perm_cons_eraseP {items : List α} {found : α}
    (among : items.find? p = some found) : items.Perm (found :: items.eraseP p) := by
  have perm := updateFirst_perm (f := id) among
  rwa [updateFirst_id] at perm

theorem insertIdx_findIdx (new : α) (items : List α) :
    items.insertIdx (items.findIdx p) new = insertBefore p new items := by
  induction items with
  | nil => rfl
  | cons first rest ih =>
      rw [List.findIdx_cons, insertBefore]
      cases p first with
      | true => rfl
      | false => rw [cond_false, List.insertIdx_succ_cons, ih, if_neg Bool.false_ne_true]

/-- An element that is put back at its old place leaves no trace of having been taken out. -/
theorem insertIdx_eraseP {items : List α} {found : α} (among : items.find? p = some found) :
    (items.eraseP p).insertIdx (items.findIdx p) found = items := by
  induction items with
  | nil => cases among
  | cons first rest ih =>
      by_cases holds : p first = true
      · rw [List.find?_cons_of_pos holds] at among
        cases among
        rw [List.eraseP_cons_of_pos holds, List.findIdx_cons, holds]
        rfl
      · rw [List.find?_cons_of_neg holds] at among
        rw [List.eraseP_cons_of_neg holds, List.findIdx_cons, eq_false_of_ne_true holds, cond_false,
          List.insertIdx_succ_cons, ih among]

theorem insertBefore_perm (new : α) (items : List α) :
    (insertBefore p new items).Perm (new :: items) := by
  induction items with
  | nil => exact .refl _
  | cons first rest ih =>
      rw [insertBefore]
      split
      · exact .refl _
      · exact (ih.cons first).trans (.swap new first rest)

theorem updateFirst_comm (apart : ∀ item, p item = true → q item = false)
    (keepsFirst : ∀ item, p (g item) = p item) (keepsSecond : ∀ item, q (f item) = q item)
    (items : List α) :
    updateFirst q g (updateFirst p f items) = updateFirst p f (updateFirst q g items) := by
  induction items with
  | nil => rfl
  | cons first rest ih =>
      by_cases isFirst : p first = true
      · have notSecond : ¬ q first = true := by simp [apart first isFirst]
        have stillNot : ¬ q (f first) = true := by rwa [keepsSecond]
        rw [updateFirst, if_pos isFirst, updateFirst, if_neg stillNot, updateFirst,
          if_neg notSecond, updateFirst, if_pos isFirst]
      · by_cases isSecond : q first = true
        · have stillNot : ¬ p (g first) = true := by rwa [keepsFirst]
          rw [updateFirst, if_neg isFirst, updateFirst, if_pos isSecond, updateFirst,
            if_pos isSecond, updateFirst, if_neg stillNot]
        · rw [updateFirst, if_neg isFirst, updateFirst, if_neg isSecond, ih, updateFirst,
            if_neg isSecond, updateFirst, if_neg isFirst]

theorem map_updateFirst {view : α → β} (same : ∀ item, p item = true → view (f item) = view item)
    (items : List α) : (updateFirst p f items).map view = items.map view := by
  induction items with
  | nil => rfl
  | cons first rest ih =>
      rw [updateFirst]
      split
      · next holds => rw [List.map_cons, List.map_cons, same first holds]
      · rw [List.map_cons, List.map_cons, ih]

theorem flatMap_updateFirst {view : α → List β}
    (same : ∀ item, p item = true → view (f item) = view item) (items : List α) :
    (updateFirst p f items).flatMap view = items.flatMap view := by
  rw [List.flatMap_def, List.flatMap_def, map_updateFirst same]

theorem filter_eraseP (apart : ∀ item, p item = true → q item = false) (items : List α) :
    (items.eraseP p).filter q = items.filter q := by
  induction items with
  | nil => rfl
  | cons first rest ih =>
      by_cases holds : p first = true
      · rw [List.eraseP_cons_of_pos holds, List.filter_cons_of_neg (by simp [apart first holds])]
      · rw [List.eraseP_cons_of_neg holds, List.filter_cons, List.filter_cons, ih]

theorem filter_insertBefore {new : α} (apart : q new = false) (items : List α) :
    (insertBefore p new items).filter q = items.filter q := by
  have notKept : ¬ q new = true := by simp [apart]
  induction items with
  | nil => rw [insertBefore, List.filter_cons_of_neg notKept]
  | cons first rest ih =>
      rw [insertBefore]
      split
      · rw [List.filter_cons_of_neg notKept]
      · rw [List.filter_cons, List.filter_cons, ih]

/-- Where keys differ, an element is found by its key. -/
theorem find?_of_mem [DecidableEq β] {key : α → β} {items : List α}
    (different : (items.map key).Nodup) {item : α} (member : item ∈ items) :
    items.find? (fun other => key other = key item) = some item := by
  induction items with
  | nil => cases member
  | cons first rest ih =>
      rw [List.map_cons, List.nodup_cons] at different
      rcases List.mem_cons.mp member with rfl | later
      · exact List.find?_cons_of_pos (decide_eq_true rfl)
      · have apart : key first ≠ key item :=
          fun same => different.1 (same ▸ List.mem_map_of_mem later)
        rw [List.find?_cons_of_neg (by simpa using apart), ih different.2 later]

theorem eraseP_eq_filter [DecidableEq β] {key : α → β} {items : List α}
    (different : (items.map key).Nodup) (value : β) :
    items.eraseP (fun item => key item = value) = items.filter fun item => key item ≠ value := by
  induction items with
  | nil => rfl
  | cons first rest ih =>
      rw [List.map_cons, List.nodup_cons] at different
      by_cases found : key first = value
      · rw [List.eraseP_cons_of_pos (by simp [found]), List.filter_cons_of_neg (by simp [found])]
        refine (List.filter_eq_self.mpr fun item member => ?_).symm
        have apart : key item ≠ key first :=
          fun same => different.1 (same ▸ List.mem_map_of_mem member)
        simpa [← found] using apart
      · rw [List.eraseP_cons_of_neg (by simp [found]), List.filter_cons_of_pos (by simp [found]),
          ih different.2]

end Lists

namespace Schema

variable {schema : Schema} {typeId other : TypeId} {f g : TypeDecl → TypeDecl}

theorem requireType_updateType_self (keeps : ∀ decl : TypeDecl, (f decl).id = decl.id)
    {decl : TypeDecl} (found : schema.requireType typeId = .ok decl) :
    (schema.updateType typeId f).requireType typeId = .ok (f decl) := by
  rw [requireType_eq_ok_iff] at found ⊢
  rw [updateType, find?_updateFirst (by simp [keeps]), found, Option.map_some]

theorem requireType_updateType_of_ne (keeps : ∀ decl : TypeDecl, (f decl).id = decl.id)
    (different : typeId ≠ other) :
    (schema.updateType typeId f).requireType other = schema.requireType other := by
  have apart : ∀ decl : TypeDecl, decl.id = typeId → ¬ decl.id = other := by
    rintro decl rfl
    exact different
  have same : (schema.updateType typeId f).type? other = schema.type? other :=
    find?_updateFirst_of_apart (by simpa using apart) (by simpa [keeps] using apart) schema.types
  rw [requireType, requireType, same]

theorem updateType_updateType (keeps : ∀ decl : TypeDecl, (f decl).id = decl.id) :
    (schema.updateType typeId f).updateType typeId g = schema.updateType typeId (g ∘ f) := by
  rw [updateType, updateType, updateType, updateFirst_updateFirst (by simp [keeps])]

theorem updateType_congr {decl : TypeDecl} (found : schema.requireType typeId = .ok decl)
    (same : f decl = g decl) : schema.updateType typeId f = schema.updateType typeId g := by
  rw [updateType, updateType, updateFirst_congr fun item among => ?_]
  rw [requireType_eq_ok_iff.mp found] at among
  cases among
  exact same

theorem updateType_id : schema.updateType typeId id = schema := by
  rw [updateType, updateFirst_id]

/-- All ids differ, also those of fields of different types. -/
structure IdsDistinct (schema : Schema) : Prop where
  types : (schema.types.map fun decl => decl.id).Nodup
  fields : (schema.types.flatMap fun decl => decl.fields.map fun field => field.id).Nodup

/-- None of the ids is in use. -/
def Lacks (schema : Schema) (fresh : FreshIds) : Prop :=
  ∀ decl ∈ schema.types, decl.id ≠ fresh.type ∧ ∀ field ∈ decl.fields, field.id ≠ fresh.field

theorem type?_of_mem {decl : TypeDecl} (distinct : schema.IdsDistinct)
    (member : decl ∈ schema.types) : schema.type? decl.id = some decl :=
  find?_of_mem distinct.types member

end Schema

end SdlWorkbench
