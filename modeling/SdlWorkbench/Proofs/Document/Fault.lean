import SdlWorkbench.Document.Printer
/-!
Documents without a fault.

A document can be written exactly when every directive has identifiers for keys and quotable values,
and every description is describable.  The lemmas here go from a document down to these parts.  A fault
of a key comes from the key of a directive.
-/

namespace SdlWorkbench

/-- The item is the first one in the list with the property. -/
def IsFirst {α : Type} (holds : α → Prop) (item : α) (items : List α) : Prop :=
  ∃ before after, items = before ++ item :: after ∧ holds item ∧ ∀ other ∈ before, ¬ holds other

theorem find?_eq_some_iff_isFirst {α : Type} {holds : α → Prop} [DecidablePred holds] {item : α}
    {items : List α} :
    items.find? (fun other => decide (holds other)) = some item ↔ IsFirst holds item items := by
  rw [List.find?_eq_some_iff_append, IsFirst]
  simp [and_left_comm]

theorem IsFirst.mem {α : Type} {holds : α → Prop} {item : α} {items : List α}
    (first : IsFirst holds item items) : item ∈ items := by
  obtain ⟨before, after, rfl, -, -⟩ := first
  exact List.mem_append_right before List.mem_cons_self

theorem Directive.fault?_eq_none_iff (directive : Directive) :
    directive.fault? = none ↔ ∀ entry ∈ directive.arguments.entries,
      isIdentifier entry.1 = true ∧ entry.2.isQuotable = true := by
  unfold Directive.fault?
  split
  · next entry found =>
      constructor
      · intro impossible
        cases impossible
      · intro sound
        have bad := List.find?_some found
        rw [(sound entry (List.mem_of_find?_eq_some found)).1] at bad
        cases bad
  · next keysSound =>
      rw [Option.map_eq_none_iff, List.find?_eq_none]
      rw [List.find?_eq_none] at keysSound
      constructor
      · intro valuesSound entry member
        exact ⟨by simpa using keysSound entry member, by simpa using valuesSound entry member⟩
      · intro sound entry member
        simp [(sound entry member).2]

theorem descriptionFault?_eq_none_iff (type : Name) (field : Option Name)
    (description : Option Text) : descriptionFault? type field description = none ↔
      ∀ text ∈ description, text.isDescribable = true := by
  cases description with
  | none => simp [descriptionFault?]
  | some text => simp [descriptionFault?]

theorem Field.fault?_eq_none_iff (owner : Name) (field : Field) :
    field.fault? owner = none ↔ (∀ text ∈ field.description, text.isDescribable = true) ∧
      ∀ directive ∈ field.directives, directive.fault? = none := by
  rw [Field.fault?, Option.or_eq_none_iff, descriptionFault?_eq_none_iff,
    List.findSome?_eq_none_iff]

theorem Declaration.fault?_eq_none_iff (declaration : Declaration Field) :
    declaration.fault? = none ↔
      (∀ text ∈ declaration.description, text.isDescribable = true) ∧
        (∀ directive ∈ declaration.directives, directive.fault? = none) ∧
          ∀ field ∈ declaration.body.fields, field.fault? declaration.name = none := by
  rw [Declaration.fault?, Option.or_eq_none_iff, Option.or_eq_none_iff,
    descriptionFault?_eq_none_iff, List.findSome?_eq_none_iff, List.findSome?_eq_none_iff,
    and_assoc]

theorem Document.fault?_eq_none_iff (document : Document) :
    document.fault? = none ↔ ∀ declaration ∈ document, declaration.fault? = none :=
  List.findSome?_eq_none_iff

theorem Document.print_eq_ok_iff (width : Nat) (document : Document) (text : Text) :
    document.print width = .ok text ↔ document.fault? = none ∧ document.render width = text := by
  unfold Document.print
  cases document.fault? with
  | none => simp
  | some error => simp

theorem Directive.exists_entry_of_fault {directive : Directive} {name : Name} {key : Text}
    (fault : directive.fault? = some (.invalidArgumentKey name key)) :
    ∃ entry ∈ directive.arguments.entries, isIdentifier entry.1 = false := by
  unfold Directive.fault? at fault
  split at fault
  · next entry found =>
      exact ⟨entry, List.mem_of_find?_eq_some found, by simpa using List.find?_some found⟩
  · obtain ⟨_, _, impossible⟩ := Option.map_eq_some_iff.mp fault
    cases impossible

theorem descriptionFault?_ne_invalidArgumentKey (type : Name) (field : Option Name)
    (description : Option Text) (name : Name) (key : Text) :
    descriptionFault? type field description ≠ some (.invalidArgumentKey name key) := by
  intro fault
  cases description with
  | none => cases fault
  | some text =>
      rw [descriptionFault?] at fault
      split at fault <;> cases fault

theorem Field.exists_directive_of_fault {owner : Name} {field : Field} {name : Name} {key : Text}
    (fault : field.fault? owner = some (.invalidArgumentKey name key)) :
    ∃ directive ∈ field.directives, directive.fault? = some (.invalidArgumentKey name key) := by
  rcases Option.or_eq_some_iff.mp fault with described | ⟨-, annotated⟩
  · exact absurd described (descriptionFault?_ne_invalidArgumentKey _ _ _ name key)
  · exact List.exists_of_findSome?_eq_some annotated

theorem Document.exists_directive_of_fault {document : Document} {name : Name} {key : Text}
    (fault : document.fault? = some (.invalidArgumentKey name key)) :
    ∃ declaration ∈ document, ∃ directive,
      (directive ∈ declaration.directives ∨
        ∃ field ∈ declaration.body.fields, directive ∈ field.directives) ∧
      directive.fault? = some (.invalidArgumentKey name key) := by
  obtain ⟨declaration, member, fault⟩ := List.exists_of_findSome?_eq_some fault
  refine ⟨declaration, member, ?_⟩
  rcases Option.or_eq_some_iff.mp fault with own | ⟨-, inField⟩
  · rcases Option.or_eq_some_iff.mp own with described | ⟨-, annotated⟩
    · exact absurd described (descriptionFault?_ne_invalidArgumentKey _ _ _ name key)
    · obtain ⟨directive, among, bad⟩ := List.exists_of_findSome?_eq_some annotated
      exact ⟨directive, .inl among, bad⟩
  · obtain ⟨field, isField, bad⟩ := List.exists_of_findSome?_eq_some inField
    obtain ⟨directive, among, bad⟩ := Field.exists_directive_of_fault bad
    exact ⟨directive, .inr ⟨field, isField, among⟩, bad⟩

end SdlWorkbench
