import SdlWorkbench.Proofs.Document.Emission
import SdlWorkbench.Proofs.Schema.Equality
/-!
Schemas without their ids.

Two schemas compare equal exactly when they are the same after all ids are erased.  The pass that prints
the declarations as they stand has every id in reach, and still schemas that compare equal have one
canonical text, or cannot be written for one reason.
-/

namespace SdlWorkbench

namespace FieldDecl

/-- The field with the id that all erased fields have. -/
def erased (field : FieldDecl) : FieldDecl :=
  { field with id := Id.ofNat 0 }

theorem structurallyEq_iff_erased (left right : FieldDecl) :
    left.structurallyEq right = true ↔ left.erased = right.erased := by
  rw [structurallyEq_iff, erased, erased, FieldDecl.mk.injEq, and_iff_left rfl]

end FieldDecl

namespace TypeDecl

/-- The declaration with the same id on it and on every field that all erased ones have. -/
def erased (decl : TypeDecl) : TypeDecl :=
  { decl with body := decl.body.map FieldDecl.erased, id := Id.ofNat 0 }

theorem structurallyEq_iff_erased (left right : TypeDecl) :
    left.structurallyEq right = true ↔ left.erased = right.erased := by
  rw [structurallyEq, erased, erased, TypeDecl.mk.injEq, and_iff_left rfl, Declaration.mk.injEq]
  simp only [Bool.and_eq_true, decide_eq_true_eq,
    Body.structurallyEq_iff_map FieldDecl.structurallyEq_iff_erased, and_assoc]

end TypeDecl

namespace Schema

def erased (schema : Schema) : Schema :=
  { schema with types := schema.types.map TypeDecl.erased }

theorem structurallyEq_iff_erased (left right : Schema) :
    left.structurallyEq right = true ↔ left.erased = right.erased := by
  rw [structurallyEq, listsAgree_iff TypeDecl.structurallyEq_iff_erased, erased, erased,
    Schema.mk.injEq]

theorem structurallyEq_equivalence :
    Equivalence fun left right : Schema => left.structurallyEq right = true := by
  have same : (fun left right : Schema => left.structurallyEq right = true) =
      fun left right => left.erased = right.erased := by
    funext left right
    exact propext (structurallyEq_iff_erased left right)
  rw [same]
  exact ⟨fun _ => rfl, Eq.symm, Eq.trans⟩

end Schema

namespace Schema

/-- Structural equality is equality without ids, hence an equivalence, and printing does not see ids:
schemas that compare equal print to the same text or stop at the same error, at every indentation. -/
theorem ids_never_show (left right : Schema) :
    (left.structurallyEq right = true ↔ left.erased = right.erased) ∧
    (Equivalence fun left right : Schema => left.structurallyEq right = true) ∧
    (left.structurallyEq right = true → ∀ width,
      left.printDeclarations width = right.printDeclarations width ∧
        left.print width = right.print width) ∧
    ∀ width, left.printDeclarations width = left.print width := by
  refine ⟨structurallyEq_iff_erased left right, structurallyEq_equivalence, ?_,
    fun width => left.printDeclarations_eq_print width⟩
  intro equal width
  have sameDocument := (structurallyEq_iff left right).mp equal
  have samePrint : left.print width = right.print width := by
    rw [print, print, sameDocument]
  rw [printDeclarations_eq_print, printDeclarations_eq_print]
  exact ⟨samePrint, samePrint⟩

/-- A type that has quotes in its description and fields with and without more than a name and a type,
and an enum. -/
def shapesDocument : Document :=
  [{ name := Name.literal "Sheet", description := some "a \"b\" c".toList
     body := .object
      [{ name := Name.literal "tags", typeName := Name.literal "Tag", isList := true,
         isRequired := true, directives := [Family.dataEntity.compose "7".toList] },
       { name := Name.literal "text", typeName := Schema.defaultFieldType }] },
    { name := Name.literal "Tag", body := .enumeration [Name.literal "NEW"] }]

def firstShapes : Schema :=
  (shapesDocument.identify ⟨0⟩).1

def laterShapes : Schema :=
  (shapesDocument.identify ⟨9⟩).1

theorem shapes_print_alike :
    firstShapes ≠ laterShapes ∧ firstShapes.structurallyEq laterShapes = true ∧
    firstShapes.erased = laterShapes.erased ∧
    firstShapes.printDeclarations 4 = laterShapes.printDeclarations 4 ∧
    firstShapes.print 4 = laterShapes.print 4 := by
  have equal : firstShapes.structurallyEq laterShapes = true := by decide
  obtain ⟨compares, -, prints, -⟩ := ids_never_show firstShapes laterShapes
  exact ⟨by decide, equal, compares.mp equal, prints equal 4⟩

end Schema

end SdlWorkbench
