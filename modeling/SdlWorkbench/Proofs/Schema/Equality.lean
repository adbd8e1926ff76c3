import SdlWorkbench.Schema.Equality
/-!
Structural equality is equality of documents: two schemas compare equal exactly when they are the same
after their ids are forgotten.
-/

namespace SdlWorkbench

theorem listsAgree_iff {α β : Type} {agree : α → α → Bool} {forget : α → β}
    (agrees : ∀ left right, agree left right = true ↔ forget left = forget right)
    (lefts rights : List α) :
    listsAgree agree lefts rights = true ↔ lefts.map forget = rights.map forget := by
  induction lefts generalizing rights with
  | nil =>
      cases rights with
      | nil => simp [listsAgree]
      | cons right more => simp [listsAgree]
  | cons left others ih =>
      cases rights with
      | nil => simp [listsAgree]
      | cons right more =>
          rw [listsAgree, Bool.and_eq_true, agrees, ih, List.map_cons, List.map_cons,
            List.cons_eq_cons]

theorem FieldDecl.structurallyEq_iff (left right : FieldDecl) :
    left.structurallyEq right = true ↔ left.toField = right.toField := by
  rw [FieldDecl.structurallyEq]
  simp only [Bool.and_eq_true, decide_eq_true_eq]
  constructor
  · rintro ⟨⟨⟨⟨⟨name, type⟩, list⟩, required⟩, description⟩, directives⟩
    obtain ⟨⟨⟩, leftId⟩ := left
    obtain ⟨⟨⟩, rightId⟩ := right
    cases name
    cases type
    cases list
    cases required
    cases description
    cases directives
    rfl
  · intro same
    rw [same]
    simp

/-- Bodies compare as their members do, whatever it is of the fields that the comparison looks at. -/
theorem Body.structurallyEq_iff_map {β : Type} {forget : FieldDecl → β}
    (agrees : ∀ left right : FieldDecl,
      left.structurallyEq right = true ↔ forget left = forget right)
    (left right : Body FieldDecl) :
    left.structurallyEq right = true ↔ left.map forget = right.map forget := by
  cases left with
  | object leftFields =>
      cases right with
      | object rightFields =>
          rw [Body.structurallyEq, listsAgree_iff agrees, Body.map, Body.map, Body.object.injEq]
      | enumeration rightValues => simp [Body.structurallyEq, Body.map]
  | enumeration leftValues =>
      cases right with
      | object rightFields => simp [Body.structurallyEq, Body.map]
      | enumeration rightValues => simp [Body.structurallyEq, Body.map]

theorem TypeDecl.structurallyEq_iff (left right : TypeDecl) :
    left.structurallyEq right = true ↔ left.declaration = right.declaration := by
  rw [TypeDecl.structurallyEq, TypeDecl.declaration, TypeDecl.declaration, Declaration.mk.injEq]
  simp only [Bool.and_eq_true, decide_eq_true_eq,
    Body.structurallyEq_iff_map FieldDecl.structurallyEq_iff, and_assoc]

theorem Schema.structurallyEq_iff (left right : Schema) :
    left.structurallyEq right = true ↔ left.document = right.document :=
  listsAgree_iff TypeDecl.structurallyEq_iff left.types right.types

end SdlWorkbench
