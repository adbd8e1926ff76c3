import SdlWorkbench.Proofs.Schema.Clashes
/-!
The field types that are offered.

The list holds the scalars and the names of all types, so in a reachable schema a name stands in it once
for being a scalar and once for being the name of a type.  No edit keeps a type from taking the name of
a scalar; such a name is offered twice.
-/

namespace SdlWorkbench

namespace Schema

variable {schema : Schema}

theorem builtinScalars_nodup : builtinScalars.Nodup := by
  decide

theorem namesOfKind_perm (schema : Schema) :
    (schema.namesOfKind .object ++ schema.namesOfKind .enumeration).Perm
      (schema.types.map fun decl => decl.name) := by
  have others : (schema.types.filter fun decl => decl.kind = .enumeration) =
      schema.types.filter fun decl => !decide (decl.kind = .object) := by
    congr 1
    funext decl
    cases decl.kind <;> rfl
  rw [namesOfKind, namesOfKind, ← List.map_append, others]
  exact (List.filter_append_perm _ _).map _

theorem availableFieldTypes_perm (schema : Schema) :
    schema.availableFieldTypes.Perm
      (builtinScalars ++ schema.types.map fun decl => decl.name) := by
  rw [availableFieldTypes, List.append_assoc]
  exact schema.namesOfKind_perm.append_left builtinScalars

/-- A reachable schema offers no name twice exactly when no type has the name of a scalar.  A name that
is both stands in the list twice, every other one once or not at all. -/
theorem Reachable.availableFieldTypes_nodup_iff (reachable : schema.Reachable) :
    (schema.availableFieldTypes.Nodup ↔ ∀ decl ∈ schema.types, decl.name ∉ builtinScalars) ∧
    ∀ name, schema.availableFieldTypes.count name =
      (if name ∈ builtinScalars then 1 else 0) +
        if name ∈ schema.types.map fun decl => decl.name then 1 else 0 := by
  have typesNodup := reachable.names_nodup.1
  have offered := schema.availableFieldTypes_perm
  constructor
  · rw [offered.nodup_iff, List.nodup_append']
    constructor
    · rintro ⟨-, -, apart⟩ decl member scalar
      exact apart scalar (List.mem_map_of_mem member)
    · intro apart
      refine ⟨builtinScalars_nodup, typesNodup, fun name scalar isType => ?_⟩
      obtain ⟨decl, member, rfl⟩ := List.mem_map.mp isType
      exact apart decl member scalar
  · intro name
    rw [offered.count_eq, List.count_append, builtinScalars_nodup.count, typesNodup.count]

/-- A type that was added with the name of a scalar, and an enum. -/
def scalarNamed : Schema :=
  (request {} ⟨Id.ofNat 0, Id.ofNat 0⟩ (.addType .object defaultFieldType)).request
    ⟨Id.ofNat 1, Id.ofNat 1⟩ (.addType .enumeration (Name.literal "Colour"))

theorem scalarNamed_reachable : scalarNamed.Reachable :=
  ⟨[(⟨Id.ofNat 0, Id.ofNat 0⟩, .addType .object defaultFieldType),
    (⟨Id.ofNat 1, Id.ofNat 1⟩, .addType .enumeration (Name.literal "Colour"))], rfl⟩

theorem scalarNamed_offered :
    scalarNamed.Reachable ∧
    (scalarNamed.availableFieldTypes.Nodup ↔
      ∀ decl ∈ scalarNamed.types, decl.name ∉ builtinScalars) ∧
    ∀ name, scalarNamed.availableFieldTypes.count name =
      (if name ∈ builtinScalars then 1 else 0) +
        if name ∈ scalarNamed.types.map fun decl => decl.name then 1 else 0 :=
  ⟨scalarNamed_reachable, scalarNamed_reachable.availableFieldTypes_nodup_iff⟩

/-- What edits build may offer a name twice. -/
theorem available_not_always_nodup :
    ¬ ∀ schema : Schema, schema.Reachable → schema.availableFieldTypes.Nodup := by
  intro nodup
  have offeredOnce := List.nodup_iff_count_le_one.mp (nodup scalarNamed scalarNamed_reachable)
    defaultFieldType
  have offeredTwice : scalarNamed.availableFieldTypes.count defaultFieldType = 2 := by
    decide
  omega

end Schema

end SdlWorkbench
