import SdlWorkbench.Proofs.Schema.Frame
import SdlWorkbench.Proofs.Schema.Reachable
/-!
Edits that commute.

Whether an edit that sets an attribute is refused depends on ids, names and kinds alone, and such an edit
changes none of them.  So two of them are refused or carried out alike in either order, and where they
address different things or name different attributes their writes do not meet.
-/

namespace SdlWorkbench

variable {schema after : Schema} {edit first second : Edit} {fresh fresh' : FreshIds}

/-- What a check that is not about contents reads of a type. -/
structure TypeOutline where
  id : TypeId
  name : Name
  kind : TypeKind
  fieldIds : List FieldId

def TypeDecl.outline (decl : TypeDecl) : TypeOutline where
  id := decl.id
  name := decl.name
  kind := decl.kind
  fieldIds := decl.fields.map fun field => field.id

namespace Schema

def outline (schema : Schema) : List TypeOutline :=
  schema.types.map TypeDecl.outline

theorem typeFault?_congr (same : after.outline = schema.outline) :
    after.typeFault? = schema.typeFault? := by
  funext typeId
  have byOutline : ∀ schema : Schema, schema.typeFault? typeId =
      if schema.outline.any fun seen => seen.id = typeId then none
      else some (.unknownType typeId.text) := by
    intro schema
    rw [typeFault?, outline, List.any_map]
    rfl
  rw [byOutline, same, ← byOutline]

theorem kindFault?_congr (same : after.outline = schema.outline) :
    after.kindFault? = schema.kindFault? := by
  funext typeId kind
  have byOutline : ∀ schema : Schema, schema.kindFault? typeId kind =
      (schema.outline.find? fun seen => seen.id = typeId).bind fun seen =>
        if seen.kind = kind then none else some (.kindMismatch seen.name kind) := by
    intro schema
    rw [kindFault?, type?, outline, List.find?_map, Option.bind_map]
    rfl
  rw [byOutline, same, ← byOutline]

theorem fieldFault?_congr (same : after.outline = schema.outline) :
    after.fieldFault? = schema.fieldFault? := by
  funext typeId fieldId
  have byOutline : ∀ schema : Schema, schema.fieldFault? typeId fieldId =
      (schema.outline.find? fun seen => seen.id = typeId).bind fun seen =>
        if seen.fieldIds.any fun id => id = fieldId then none
        else some (.unknownField seen.name.text fieldId.text) := by
    intro schema
    rw [fieldFault?, type?, outline, List.find?_map, Option.bind_map]
    simp only [Function.comp_def, TypeDecl.outline, List.any_map]
    rfl
  rw [byOutline, same, ← byOutline]

def firstFault? (schema : Schema) (edit : Edit) : Option SchemaError :=
  Check.inOrder.findSome? (schema.fault? edit)

theorem firstFault?_congr (same : after.outline = schema.outline)
    (sets : edit.setsAttribute = true) : after.firstFault? edit = schema.firstFault? edit := by
  -- The two checks that would read more than the outline are not made.
  have noTarget : edit.targetId? = none := by
    cases edit <;> cases sets <;> rfl
  have noContent : ∀ schema : Schema, schema.contentFault? edit = none := by
    intro schema
    cases edit <;> cases sets <;> rfl
  have faults : after.fault? edit = schema.fault? edit := by
    funext check
    cases check with
    | argumentKeys => rfl
    | typeExists => simp only [fault?, typeFault?_congr same]
    | targetExists => simp only [fault?, noTarget, Option.bind_none]
    | typeKind => simp only [fault?, kindFault?_congr same]
    | fieldExists => simp only [fault?, fieldFault?_congr same]
    | targetKind => simp only [fault?, noTarget, Option.bind_none]
    | content => simp only [fault?, noContent]
  rw [firstFault?, faults, firstFault?]

end Schema

theorem TypeDecl.mapFields_mapFields (f g : List FieldDecl → List FieldDecl) (decl : TypeDecl) :
    (decl.mapFields f).mapFields g = decl.mapFields fun fields => g (f fields) := by
  obtain ⟨⟨name, description, directives, body⟩, id⟩ := decl
  cases body <;> rfl

namespace Edit

theorem writeField_id (edit : Edit) (field : FieldDecl) : (edit.writeField field).id = field.id := by
  cases edit <;> rfl

theorem writeIn_outline (edit : Edit) (decl : TypeDecl) :
    (edit.writeIn decl).outline = decl.outline := by
  cases isField : edit.fieldId? with
  | none =>
      rw [writeIn_of_type isField]
      rfl
  | some fieldId =>
      rw [writeIn_of_field isField]
      obtain ⟨⟨name, description, directives, body⟩, id⟩ := decl
      cases body with
      | enumeration values => rfl
      | object fields =>
          have ids : (updateFirst (fun field => field.id = fieldId) edit.writeField fields).map
              (fun field => field.id) = fields.map fun field => field.id :=
            map_updateFirst (fun field _ => edit.writeField_id field) fields
          exact congrArg (TypeOutline.mk id name .object) ids

theorem writeIn_id (edit : Edit) (decl : TypeDecl) : (edit.writeIn decl).id = decl.id :=
  congrArg TypeOutline.id (edit.writeIn_outline decl)

theorem write_outline (edit : Edit) (schema : Schema) :
    (edit.write schema).outline = schema.outline := by
  rw [write]
  split
  · rfl
  · exact map_updateFirst (fun decl _ => edit.writeIn_outline decl) schema.types

/-- The edits address different types or fields, or they name different attributes. -/
def Independent (first second : Edit) : Prop :=
  first.typeId? ≠ second.typeId? ∨ first.fieldId? ≠ second.fieldId? ∨
    first.attribute? ≠ second.attribute?

theorem writeType_comm (firstSets : first.setsAttribute = true)
    (secondSets : second.setsAttribute = true) (differ : first.attribute? ≠ second.attribute?)
    (decl : TypeDecl) :
    second.writeType (first.writeType decl) = first.writeType (second.writeType decl) := by
  cases first <;> cases firstSets <;> cases second <;> cases secondSets <;>
    first | rfl | exact absurd rfl differ

theorem writeField_comm (firstSets : first.setsAttribute = true)
    (secondSets : second.setsAttribute = true) (differ : first.attribute? ≠ second.attribute?)
    (field : FieldDecl) :
    second.writeField (first.writeField field) = first.writeField (second.writeField field) := by
  cases first <;> cases firstSets <;> cases second <;> cases secondSets <;>
    first | rfl | exact absurd rfl differ

theorem writeIn_comm (firstSets : first.setsAttribute = true)
    (secondSets : second.setsAttribute = true)
    (differ : first.fieldId? ≠ second.fieldId? ∨ first.attribute? ≠ second.attribute?)
    (decl : TypeDecl) :
    second.writeIn (first.writeIn decl) = first.writeIn (second.writeIn decl) := by
  -- A type and its fields are written in different parts, and so are two fields.  Only what meets in
  -- the type itself or in one field needs the attributes to differ.
  cases firstField : first.fieldId? with
  | none =>
      cases secondField : second.fieldId? with
      | none =>
          rw [writeIn_of_type firstField, writeIn_of_type secondField]
          exact writeType_comm firstSets secondSets
            (differ.resolve_left fun apart => apart (firstField.trans secondField.symm)) decl
      | some fieldId =>
          rw [writeIn_of_type firstField, writeIn_of_field secondField]
          rfl
  | some fieldId =>
      cases secondField : second.fieldId? with
      | none =>
          rw [writeIn_of_field firstField, writeIn_of_type secondField]
          rfl
      | some otherId =>
          rw [writeIn_of_field firstField, writeIn_of_field secondField]
          change (decl.mapFields _).mapFields _ = (decl.mapFields _).mapFields _
          rw [TypeDecl.mapFields_mapFields, TypeDecl.mapFields_mapFields]
          refine congrArg (fun f => decl.mapFields f) (funext fun fields => ?_)
          by_cases same : fieldId = otherId
          · subst same
            have attributesDiffer : first.attribute? ≠ second.attribute? :=
              differ.resolve_left fun apart => apart (firstField.trans secondField.symm)
            rw [updateFirst_updateFirst (by simp [writeField_id]),
              updateFirst_updateFirst (by simp [writeField_id])]
            congr 1
            funext field
            exact writeField_comm firstSets secondSets attributesDiffer field
          · refine updateFirst_comm ?_ (by simp [writeField_id]) (by simp [writeField_id]) fields
            intro field found
            rw [of_decide_eq_true found]
            exact decide_eq_false same

theorem write_comm (firstSets : first.setsAttribute = true) (secondSets : second.setsAttribute = true)
    (independent : first.Independent second) (schema : Schema) :
    second.write (first.write schema) = first.write (second.write schema) := by
  obtain ⟨firstType, firstAddresses⟩ := exists_typeId_of_setsAttribute firstSets
  obtain ⟨secondType, secondAddresses⟩ := exists_typeId_of_setsAttribute secondSets
  rw [write_eq firstAddresses, write_eq firstAddresses, write_eq secondAddresses,
    write_eq secondAddresses]
  by_cases same : firstType = secondType
  · subst same
    have differ := independent.resolve_left
      fun apart => apart (firstAddresses.trans secondAddresses.symm)
    rw [Schema.updateType_updateType first.writeIn_id,
      Schema.updateType_updateType second.writeIn_id]
    congr 1
    funext decl
    exact writeIn_comm firstSets secondSets differ decl
  · refine congrArg Schema.mk (updateFirst_comm ?_ (by simp [writeIn_id]) (by simp [writeIn_id])
      schema.types)
    intro decl found
    rw [of_decide_eq_true found]
    exact decide_eq_false same

theorem annotate_annotate (edit : Edit) (annotations : Option Text × List Directive) :
    edit.annotate (edit.annotate annotations) = edit.annotate annotations := by
  obtain ⟨description, directives⟩ := annotations
  cases edit with
  | setDirective target directive =>
      exact congrArg (Prod.mk description)
        (Schema.withDirective_withDirective directive directives)
  | setAccessScope target scope =>
      exact congrArg (Prod.mk description) (Schema.withDirective_withDirective _ directives)
  | removeDirective target name => simp only [annotate, List.filter_filter, Bool.and_self]
  | _ => rfl

theorem writeType_writeType (edit : Edit) (decl : TypeDecl) :
    edit.writeType (edit.writeType decl) = edit.writeType decl :=
  congrArg (fun annotations : Option Text × List Directive =>
    { decl with description := annotations.1, directives := annotations.2 })
    (edit.annotate_annotate (decl.description, decl.directives))

theorem writeField_writeField (edit : Edit) (field : FieldDecl) :
    edit.writeField (edit.writeField field) = edit.writeField field := by
  have annotated := congrArg (fun annotations : Option Text × List Directive =>
    { field with description := annotations.1, directives := annotations.2 })
    (edit.annotate_annotate (field.description, field.directives))
  cases edit <;> first | rfl | exact annotated

theorem write_write (edit : Edit) (schema : Schema) :
    edit.write (edit.write schema) = edit.write schema := by
  have again : edit.writeIn ∘ edit.writeIn = edit.writeIn := by
    funext decl
    cases isField : edit.fieldId? with
    | none =>
        rw [writeIn_of_type isField]
        exact edit.writeType_writeType decl
    | some fieldId =>
        rw [writeIn_of_field isField]
        change (decl.mapFields _).mapFields _ = decl.mapFields _
        rw [TypeDecl.mapFields_mapFields]
        refine congrArg (fun f => decl.mapFields f) (funext fun fields => ?_)
        rw [updateFirst_updateFirst (by simp [writeField_id])]
        congr 1
        funext field
        exact edit.writeField_writeField field
  cases addresses : edit.typeId? with
  | none => rw [write, write, addresses]
  | some typeId =>
      rw [write_eq addresses, write_eq addresses, Schema.updateType_updateType edit.writeIn_id,
        again]

end Edit

namespace Schema

def answer (schema : Schema) (fresh : FreshIds) (edit : Edit) : Except SchemaError EditOutcome :=
  (schema.apply fresh edit).map Prod.fst

theorem apply_eq (sets : edit.setsAttribute = true) (schema : Schema) (fresh : FreshIds) :
    schema.apply fresh edit = match schema.firstFault? edit with
      | some error => .error error
      | none => .ok (.updated, edit.write schema) := by
  have decided := refusal?_apply schema fresh edit
  rw [firstFault?, ← decided]
  cases done : schema.apply fresh edit with
  | error error => rfl
  | ok result =>
      obtain ⟨outcome, after⟩ := result
      obtain ⟨rfl, rfl⟩ := eq_write_of_apply sets done
      rfl

theorem request_eq (sets : edit.setsAttribute = true) (schema : Schema) (fresh : FreshIds) :
    schema.request fresh edit = if (schema.firstFault? edit).isSome then schema
      else edit.write schema := by
  rw [request, apply_eq sets]
  cases schema.firstFault? edit <;> rfl

theorem outline_request (sets : edit.setsAttribute = true) (schema : Schema) (fresh : FreshIds) :
    (schema.request fresh edit).outline = schema.outline := by
  rw [request_eq sets]
  split
  · rfl
  · exact edit.write_outline schema

theorem firstFault?_request (firstSets : first.setsAttribute = true)
    (secondSets : second.setsAttribute = true) (schema : Schema) (fresh : FreshIds) :
    (schema.request fresh first).firstFault? second = schema.firstFault? second :=
  firstFault?_congr (outline_request firstSets schema fresh) secondSets

theorem answer_request (firstSets : first.setsAttribute = true)
    (secondSets : second.setsAttribute = true) (schema : Schema) (fresh fresh' : FreshIds) :
    (schema.request fresh first).answer fresh' second = schema.answer fresh' second := by
  rw [answer, answer, apply_eq secondSets, apply_eq secondSets,
    firstFault?_request firstSets secondSets]
  cases schema.firstFault? second <;> rfl

theorem request_request_comm (firstSets : first.setsAttribute = true)
    (secondSets : second.setsAttribute = true) (independent : first.Independent second)
    (schema : Schema) (fresh fresh' : FreshIds) :
    (schema.request fresh first).request fresh' second =
      (schema.request fresh' second).request fresh first := by
  rw [request_eq secondSets (schema.request fresh first), firstFault?_request firstSets secondSets,
    request_eq firstSets (schema.request fresh' second), firstFault?_request secondSets firstSets,
    request_eq firstSets, request_eq secondSets]
  by_cases firstRefused : (schema.firstFault? first).isSome = true
  · rw [if_pos firstRefused, if_pos firstRefused]
  · rw [if_neg firstRefused, if_neg firstRefused]
    by_cases secondRefused : (schema.firstFault? second).isSome = true
    · rw [if_pos secondRefused, if_pos secondRefused]
    · rw [if_neg secondRefused, if_neg secondRefused]
      exact Edit.write_comm firstSets secondSets independent schema

theorem request_request_self (sets : edit.setsAttribute = true) (schema : Schema)
    (fresh fresh' : FreshIds) :
    (schema.request fresh edit).request fresh' edit = schema.request fresh edit := by
  rw [request_eq sets (schema.request fresh edit), firstFault?_request sets sets, request_eq sets]
  split
  · rfl
  · exact edit.write_write schema

/-- Independent edits that set an attribute can be made in either order: the schema is the same in the
end, and each of them is answered the same.  To make one of them again changes nothing. -/
theorem requests_commute (schema : Schema) :
    (∀ first second : Edit, first.setsAttribute = true → second.setsAttribute = true →
      first.Independent second → ∀ fresh fresh' : FreshIds,
        (schema.request fresh first).request fresh' second =
          (schema.request fresh' second).request fresh first ∧
        (schema.request fresh first).answer fresh' second = schema.answer fresh' second ∧
        (schema.request fresh' second).answer fresh first = schema.answer fresh first) ∧
    ∀ edit : Edit, edit.setsAttribute = true → ∀ fresh fresh' : FreshIds,
      (schema.request fresh edit).request fresh' edit = schema.request fresh edit ∧
      (schema.request fresh edit).answer fresh' edit = schema.answer fresh edit := by
  constructor
  · intro first second firstSets secondSets independent fresh fresh'
    exact ⟨request_request_comm firstSets secondSets independent schema fresh fresh',
      answer_request firstSets secondSets schema fresh fresh',
      answer_request secondSets firstSets schema fresh' fresh⟩
  · intro edit sets fresh fresh'
    refine ⟨request_request_self sets schema fresh fresh', ?_⟩
    rw [answer_request sets sets, answer, answer, apply_eq sets, apply_eq sets]

/-- A type and one of its own fields are different things. -/
theorem homonyms_requests_commute :
    Edit.Independent (.setDescription (.type (Id.ofNat 0)) (some "a".toList))
      (.setFieldList (Id.ofNat 0) (Id.ofNat 0) true) ∧
    (homonyms.request ⟨Id.ofNat 2, Id.ofNat 3⟩
        (.setDescription (.type (Id.ofNat 0)) (some "a".toList))).request
          ⟨Id.ofNat 2, Id.ofNat 3⟩ (.setFieldList (Id.ofNat 0) (Id.ofNat 0) true) =
      (homonyms.request ⟨Id.ofNat 2, Id.ofNat 3⟩
        (.setFieldList (Id.ofNat 0) (Id.ofNat 0) true)).request
          ⟨Id.ofNat 2, Id.ofNat 3⟩ (.setDescription (.type (Id.ofNat 0)) (some "a".toList)) := by
  have independent : Edit.Independent (.setDescription (.type (Id.ofNat 0)) (some "a".toList))
      (.setFieldList (Id.ofNat 0) (Id.ofNat 0) true) := .inr (.inl (by decide))
  exact ⟨independent, ((requests_commute homonyms).1 _ _ rfl rfl independent
    ⟨Id.ofNat 2, Id.ofNat 3⟩ ⟨Id.ofNat 2, Id.ofNat 3⟩).1⟩

end Schema

end SdlWorkbench
