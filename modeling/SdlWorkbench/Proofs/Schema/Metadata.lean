import SdlWorkbench.Proofs.Directive.Codec
import SdlWorkbench.Proofs.Schema.Attributes
import SdlWorkbench.Proofs.Schema.Reachable
/-!
Well-formed metadata.

A directive gets into a schema by being set, and it is then carried along, replaced or taken out.  Its
keys are checked when it is set, and where it is set it is the only one of its name.  An access scope
that is missing or blank is taken out, so every access-scope directive of a schema that edits build has
a scope.
-/

namespace SdlWorkbench

/-- An access-scope directive has a scope that is not blank. -/
def Directive.HasScope (directive : Directive) : Prop :=
  directive.name = Family.accessScope.name →
    ∃ scope, directive.arguments.get? Family.accessScope.argument = some scope ∧
      scope.isBlank = false

structure MetadataSound (description : Option Text) (directives : List Directive) : Prop where
  namesDiffer : (directives.map fun directive => directive.name).Nodup
  keysIdentified : ∀ directive ∈ directives, directive.arguments.KeysIdentified
  haveScope : ∀ directive ∈ directives, directive.HasScope
  described : ∀ text ∈ description, text.isBlank = false

namespace Schema

theorem hasScope_of_not_clears {directive : Directive}
    (kept : clearsAccessScope directive = false) : directive.HasScope := by
  intro isScope
  rw [clearsAccessScope, Family.value?, decide_eq_true isScope, if_pos isScope,
    Bool.true_and] at kept
  cases found : directive.arguments.get? Family.accessScope.argument with
  | none =>
      rw [found] at kept
      cases kept
  | some scope =>
      rw [found] at kept
      exact ⟨scope, rfl, kept⟩

end Schema

theorem metadataSound_invariant : AnnotationInvariant MetadataSound where
  empty := by
    constructor
    case namesDiffer => exact List.nodup_nil
    case described => exact Schema.described_invariant.empty
    all_goals
      intro directive impossible
      cases impossible
  describe := by
    intro description directives sound text
    have described : Schema.Described description directives := sound.described
    exact ⟨sound.namesDiffer, sound.keysIdentified, sound.haveScope,
      Schema.described_invariant.describe described text⟩
  remove := by
    intro description directives sound name
    have kept : ∀ directive ∈ directives.filter (fun directive => directive.name ≠ name),
        directive ∈ directives := fun _ member => List.mem_of_mem_filter member
    exact ⟨sound.namesDiffer.sublist (List.filter_sublist.map _),
      fun directive member => sound.keysIdentified directive (kept directive member),
      fun directive member => sound.haveScope directive (kept directive member), sound.described⟩
  place := fun sound new keysSound keeps =>
    ⟨Schema.names_placeDirective_nodup sound.namesDiffer new,
      Schema.forall_mem_placeDirective keysSound sound.keysIdentified,
      Schema.forall_mem_placeDirective (Schema.hasScope_of_not_clears keeps) sound.haveScope,
      sound.described⟩

/-- Where every access-scope directive has a scope, there is an access scope if there is such a
directive. -/
theorem Directive.isSome_accessScope?_iff {directives : List Directive}
    (haveScope : ∀ directive ∈ directives, directive.HasScope) :
    (accessScope? directives).isSome = true ↔
      ∃ directive ∈ directives, directive.name = Family.accessScope.name := by
  rw [accessScope?, List.findSome?_isSome_iff]
  refine exists_congr fun directive => and_congr_right fun member => ?_
  rw [Family.value?]
  split
  · next isScope =>
      obtain ⟨scope, found, -⟩ := haveScope directive member isScope
      simp [found, isScope]
  · next other => simp [other]

theorem TypeDecl.declaration_fields (decl : TypeDecl) :
    decl.declaration.body.fields = decl.fields.map FieldDecl.toField := by
  rw [TypeDecl.declaration, TypeDecl.fields]
  cases decl.body <;> rfl

namespace Schema

theorem print_ne_invalidArgumentKey {schema : Schema}
    (identified : schema.Annotated fun _ directives =>
      ∀ directive ∈ directives, directive.arguments.KeysIdentified)
    (width : Nat) (name : Name) (key : Text) :
    schema.print width ≠ .error (.invalidArgumentKey name key) := by
  intro refused
  have fault : schema.document.fault? = some (.invalidArgumentKey name key) := by
    rw [print, Document.print] at refused
    split at refused
    · cases refused
    · next found =>
        cases refused
        exact found
  obtain ⟨declaration, member, directive, carried, bad⟩ :=
    Document.exists_directive_of_fault fault
  obtain ⟨decl, declMember, rfl⟩ := List.mem_map.mp member
  obtain ⟨own, fields⟩ := identified decl declMember
  have keys : directive.arguments.KeysIdentified := by
    rcases carried with ofType | ⟨field, among, ofField⟩
    · exact own directive ofType
    · rw [TypeDecl.declaration_fields] at among
      obtain ⟨fieldDecl, fieldMember, rfl⟩ := List.mem_map.mp among
      exact fields fieldDecl fieldMember directive ofField
  obtain ⟨entry, entryMember, notKey⟩ := Directive.exists_entry_of_fault bad
  rw [keys entry entryMember] at notKey
  cases notKey

/-- The metadata of a schema that edits build is well-formed: so it has an access scope wherever it has
an access-scope directive, and no key keeps it from being printed. -/
theorem Reachable.metadata_sound {schema : Schema} (reachable : schema.Reachable) :
    schema.Annotated MetadataSound ∧
    (schema.Annotated fun _ directives =>
      ((Directive.accessScope? directives).isSome = true ↔
        ∃ directive ∈ directives, directive.name = Family.accessScope.name)) ∧
    ∀ width name key, schema.print width ≠ .error (.invalidArgumentKey name key) := by
  have sound : schema.Annotated MetadataSound := reachable.annotated metadataSound_invariant
  exact ⟨sound, sound.imp fun _ _ each => Directive.isSome_accessScope?_iff each.haveScope,
    print_ne_invalidArgumentKey (sound.imp fun _ _ each => each.keysIdentified)⟩

def scopedType : Schema :=
  ⟨[{ name := Name.literal "Guarded", id := Id.ofNat 0, body := .object [],
      directives := [Family.accessScope.compose "admin".toList] }]⟩

theorem scopedType_metadata_sound :
    scopedType.Reachable ∧
    scopedType.Annotated MetadataSound ∧
    (scopedType.Annotated fun _ directives =>
      ((Directive.accessScope? directives).isSome = true ↔
        ∃ directive ∈ directives, directive.name = Family.accessScope.name)) ∧
    ∀ width name key, scopedType.print width ≠ .error (.invalidArgumentKey name key) := by
  have reachable : scopedType.Reachable := by
    refine ⟨[(⟨Id.ofNat 0, Id.ofNat 0⟩, .addType .object (Name.literal "Guarded")),
      (⟨Id.ofNat 0, Id.ofNat 0⟩, .setAccessScope (.type (Id.ofNat 0)) "user".toList),
      (⟨Id.ofNat 0, Id.ofNat 0⟩, .setAccessScope (.type (Id.ofNat 0)) " admin ".toList)], ?_⟩
    decide
  exact ⟨reachable, reachable.metadata_sound⟩

end Schema

end SdlWorkbench
