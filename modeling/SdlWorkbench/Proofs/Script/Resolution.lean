import SdlWorkbench.Script.Basic
import SdlWorkbench.Proofs.Directive.Codec
import SdlWorkbench.Proofs.Schema.Frame
import SdlWorkbench.Proofs.Schema.Refusal
/-!
Resolving the steps of a script.

A step is resolved by lookups of names one after the other.  Each of them gives the first entity that
has the name or the error that there is none, so the edit addresses just these entities.  When ids are
distinct the edit finds them again by their ids, and only names, kinds and values are left to refuse it.
-/

namespace SdlWorkbench

/-- A value satisfies the first property, and an error the second. -/
def Except.Meets {ε α : Type} (found : α → Prop) (failed : ε → Prop) : Except ε α → Prop
  | .ok value => found value
  | .error error => failed error

namespace Except

variable {ε δ α β : Type} {result : Except ε α} {found : α → Prop} {failed : ε → Prop}

theorem Meets.mono {other : α → Prop} (meets : Meets found failed result)
    (weaker : ∀ value, found value → other value) : Meets other failed result := by
  cases result with
  | ok value => exact weaker value meets
  | error error => exact meets

theorem Meets.bind {next : α → Except ε β} {done : β → Prop} (first : Meets found failed result)
    (later : ∀ value, found value → Meets done failed (next value)) :
    Meets done failed (result >>= next) := by
  cases result with
  | ok value => exact later value first
  | error error => exact first

theorem Meets.mapError {f : ε → δ} {failed : δ → Prop}
    (meets : Meets found (fun error => failed (f error)) result) :
    Meets found failed (result.mapError f) := by
  cases result with
  | ok value => exact meets
  | error error => exact meets

end Except

namespace Schema

variable {schema : Schema} {failed : SchemaError → Prop}

def IsFirstType (schema : Schema) (name : Text) (decl : TypeDecl) : Prop :=
  IsFirst (fun other => other.name.text = name) decl schema.types

def IsTypeNamed (schema : Schema) (id : TypeId) (name : Text) : Prop :=
  ∃ decl, schema.IsFirstType name decl ∧ decl.id = id

/-- The id belongs to the first field with the given name in the first type with the name `owner`. -/
def IsFieldNamed (schema : Schema) (owner : Text) (id : FieldId) (name : Text) : Prop :=
  ∃ decl field, schema.IsFirstType owner decl ∧
    IsFirst (fun other => other.name.text = name) field decl.fields ∧ field.id = id

theorem typeNamed?_eq_some_iff {name : Text} {decl : TypeDecl} :
    schema.typeNamed? name = some decl ↔ schema.IsFirstType name decl :=
  find?_eq_some_iff_isFirst

theorem resolveType_meets {name : Text}
    (unknown : (∀ decl ∈ schema.types, decl.name.text ≠ name) → failed (.unknownType name)) :
    Except.Meets (schema.IsFirstType name) failed (schema.resolveType name) := by
  rw [resolveType]
  cases found : schema.typeNamed? name with
  | none =>
      refine unknown fun decl member same => ?_
      have absent := List.find?_eq_none.mp found decl member
      exact absent (by simpa using same)
  | some decl => exact typeNamed?_eq_some_iff.mp found

theorem resolveField_meets {owner name : Text}
    (unknownType : (∀ decl ∈ schema.types, decl.name.text ≠ owner) → failed (.unknownType owner))
    (unknownField : ∀ decl, schema.IsFirstType owner decl →
      (∀ field ∈ decl.fields, field.name.text ≠ name) → failed (.unknownField owner name)) :
    Except.Meets (fun found => schema.IsFirstType owner found.1 ∧
      IsFirst (fun other => other.name.text = name) found.2 found.1.fields) failed
      (schema.resolveField owner name) := by
  refine (resolveType_meets unknownType).bind fun decl first => ?_
  cases found : decl.fieldNamed? name with
  | none =>
      refine unknownField decl first fun field member same => ?_
      have absent := List.find?_eq_none.mp found field member
      exact absent (by simpa using same)
  | some field => exact ⟨first, find?_eq_some_iff_isFirst.mp found⟩

end Schema

theorem Name.read_meets {text : Text} {failed : SchemaError → Prop}
    (invalid : isIdentifier text = false → failed (.invalidName text)) :
    Except.Meets (fun name => name.text = text) failed (Name.read text) := by
  rw [Name.read]
  cases found : Name.ofText? text with
  | none => exact invalid (Name.ofText?_eq_none_iff.mp found)
  | some name => exact Name.ofText?_eq_some_iff.mp found

namespace ScriptStep

/-- The name of the type that a step is about, by itself or as the owner of a field. -/
def typeName? : ScriptStep → Option Text
  | addType .. => none
  | renameType type _ | deleteType type | addField type _ | renameField type _ _
  | deleteField type _ | moveField type _ _ _ | setFieldType type _ _ | setList type _ _
  | setRequired type _ _ | setDescription type _ _ | addEnumValue type _ | deleteEnumValue type _
  | setDirective type _ _ | removeDirective type _ _ | setScope type _ _ => some type

def targetName? : ScriptStep → Option Text
  | moveField _ _ toType _ => some toType
  | _ => none

def fieldName? : ScriptStep → Option Text
  | renameField _ field _ | deleteField _ field | moveField _ field _ _ | setFieldType _ field _
  | setList _ field _ | setRequired _ field _ => some field
  | setDescription _ field _ | setDirective _ field _ | removeDirective _ field _
  | setScope _ field _ => field
  | _ => none

def beforeName? : ScriptStep → Option Text
  | moveField _ _ _ before => before
  | _ => none

/-- The text that has to be a name without naming anything in the schema yet. -/
def identifier? : ScriptStep → Option Text
  | addType _ name | addField _ name => some name
  | renameType _ newName | renameField _ _ newName => some newName
  | setFieldType _ _ fieldType => some fieldType
  | addEnumValue _ value | deleteEnumValue _ value => some value
  | removeDirective _ _ name => some (name.dropWhile (· = '@'))
  | _ => none

def directive? : ScriptStep → Option Text
  | setDirective _ _ directive => some directive
  | _ => none

end ScriptStep

def Edit.beforeId? : Edit → Option FieldId
  | moveField _ _ _ before => before
  | _ => none

namespace ScriptStep

/-- There is an id exactly where the step names a type, that of the first type with this name. -/
def NamesType (schema : Schema) (step : ScriptStep) (id : Option TypeId) : Prop :=
  Option.Rel schema.IsTypeNamed id step.typeName?

def NamesTarget (schema : Schema) (step : ScriptStep) (id : Option TypeId) : Prop :=
  Option.Rel schema.IsTypeNamed id step.targetName?

/-- There is an id exactly where the step names a field, that of the first field with this name in the
type that the step is about. -/
def NamesField (schema : Schema) (step : ScriptStep) (id : Option FieldId) : Prop :=
  Option.Rel (fun id name => ∃ owner, step.typeName? = some owner ∧
    schema.IsFieldNamed owner id name) id step.fieldName?

/-- The field that another is put in front of is looked up in the target of the move. -/
def NamesBefore (schema : Schema) (step : ScriptStep) (id : Option FieldId) : Prop :=
  Option.Rel (fun id name => ∃ owner, step.targetName? = some owner ∧
    schema.IsFieldNamed owner id name) id step.beforeName?

/-- The edit addresses the entities that the step names, each of them by its id. -/
structure Addresses (schema : Schema) (step : ScriptStep) (edit : Edit) : Prop where
  type : step.NamesType schema edit.typeId?
  target : step.NamesTarget schema edit.targetId?
  field : step.NamesField schema edit.fieldId?
  before : step.NamesBefore schema edit.beforeId?
  /-- The arguments of a directive are bound to identifiers. -/
  keys : ∀ key ∈ edit.argumentKeys, isIdentifier key = true

/-- Why a step has no edit: a name that no type or field has, a text that is no name, or the errors of the
text of a directive. -/
inductive Unresolved (schema : Schema) (step : ScriptStep) : EditorError → Prop where
  | unknownType {name : Text}
      (named : step.typeName? = some name ∨ step.targetName? = some name)
      (absent : ∀ decl ∈ schema.types, decl.name.text ≠ name) :
      Unresolved schema step (.refused (.unknownType name))
  | unknownField {owner name : Text} {decl : TypeDecl}
      (named : step.typeName? = some owner ∧ step.fieldName? = some name ∨
        step.targetName? = some owner ∧ step.beforeName? = some name)
      (first : schema.IsFirstType owner decl)
      (absent : ∀ field ∈ decl.fields, field.name.text ≠ name) :
      Unresolved schema step (.refused (.unknownField owner name))
  | invalidName {text : Text} (given : step.identifier? = some text)
      (invalid : isIdentifier text = false) :
      Unresolved schema step (.refused (.invalidName text))
  | unreadable {text : Text} {errors : List SyntaxError} (given : step.directive? = some text)
      (refused : Directive.decode text = .error errors) :
      Unresolved schema step (.unreadable errors)

section

variable {schema : Schema} {step : ScriptStep}

abbrev Refuses (schema : Schema) (step : ScriptStep) (error : SchemaError) : Prop :=
  step.Unresolved schema (.refused error)

theorem owner_meets {owner : Text} (named : step.typeName? = some owner) :
    Except.Meets (fun decl => step.NamesType schema (some decl.id)) (step.Refuses schema)
      (schema.resolveType owner) := by
  refine (Schema.resolveType_meets fun absent => .unknownType (.inl named) absent).mono ?_
  intro decl first
  rw [NamesType, named]
  exact .some ⟨decl, first, rfl⟩

theorem field_meets {owner name : Text} (named : step.typeName? = some owner)
    (fieldNamed : step.fieldName? = some name) :
    Except.Meets (fun found => step.NamesType schema (some found.1.id) ∧
      step.NamesField schema (some found.2.id)) (step.Refuses schema)
      (schema.resolveField owner name) := by
  refine (Schema.resolveField_meets (fun absent => .unknownType (.inl named) absent)
    fun _ first absent => .unknownField (.inl ⟨named, fieldNamed⟩) first absent).mono ?_
  rintro ⟨decl, field⟩ ⟨first, firstField⟩
  rw [NamesType, NamesField, named, fieldNamed]
  exact ⟨.some ⟨decl, first, rfl⟩, .some ⟨owner, rfl, decl, field, first, firstField, rfl⟩⟩

theorem described_meets {owner : Text} {name : Option Text} (named : step.typeName? = some owner)
    (fieldNamed : step.fieldName? = name) :
    Except.Meets (fun target => step.NamesType schema (some target.typeId) ∧
      step.NamesField schema target.fieldId?) (step.Refuses schema)
      (schema.resolveTarget owner name) := by
  cases name with
  | none =>
      refine .bind (owner_meets named) fun decl type => ⟨type, ?_⟩
      rw [NamesField, fieldNamed]
      exact .none
  | some name =>
      exact .bind (field_meets named fieldNamed) fun ⟨decl, field⟩ both => both

theorem target_meets {owner : Text} (named : step.targetName? = some owner) :
    Except.Meets (fun decl => step.NamesTarget schema (some decl.id)) (step.Refuses schema)
      (schema.resolveType owner) := by
  refine (Schema.resolveType_meets fun absent => .unknownType (.inr named) absent).mono ?_
  intro decl first
  rw [NamesTarget, named]
  exact .some ⟨decl, first, rfl⟩

theorem before_meets {owner name : Text} (named : step.targetName? = some owner)
    (beforeNamed : step.beforeName? = some name) :
    Except.Meets (fun found => step.NamesBefore schema (some found.2.id)) (step.Refuses schema)
      (schema.resolveField owner name) := by
  refine (Schema.resolveField_meets (fun absent => .unknownType (.inr named) absent)
    fun _ first absent => .unknownField (.inr ⟨named, beforeNamed⟩) first absent).mono ?_
  rintro ⟨decl, field⟩ ⟨first, firstField⟩
  rw [NamesBefore, named, beforeNamed]
  exact .some ⟨owner, rfl, decl, field, first, firstField, rfl⟩

theorem identifier_meets {text : Text} (given : step.identifier? = some text) :
    Except.Meets (fun name => name.text = text) (step.Refuses schema) (Name.read text) :=
  Name.read_meets fun invalid => .invalidName given invalid

end

/-- A step is resolved to an edit that addresses what the step names, or the error says why not. -/
theorem resolve_meets (schema : Schema) (step : ScriptStep) :
    Except.Meets (step.Addresses schema) (step.Unresolved schema) (step.resolve schema) := by
  have noKeys : ∀ key ∈ ([] : List Text), isIdentifier key = true := List.forall_mem_nil _
  cases step with
  | addType kind name =>
      refine .mapError (.bind (identifier_meets rfl) fun _ _ => ?_)
      exact ⟨.none, .none, .none, .none, noKeys⟩
  | renameType owner newName =>
      refine .mapError (.bind (owner_meets rfl) fun _ type => ?_)
      refine .bind (identifier_meets rfl) fun _ _ => ?_
      exact ⟨type, .none, .none, .none, noKeys⟩
  | deleteType owner =>
      refine .mapError (.bind (owner_meets rfl) fun _ type => ?_)
      exact ⟨type, .none, .none, .none, noKeys⟩
  | addField owner name =>
      refine .mapError (.bind (owner_meets rfl) fun _ type => ?_)
      refine .bind (identifier_meets rfl) fun _ _ => ?_
      exact ⟨type, .none, .none, .none, noKeys⟩
  | renameField owner name newName =>
      refine .mapError (.bind (field_meets rfl rfl) fun _ ⟨type, field⟩ => ?_)
      refine .bind (identifier_meets rfl) fun _ _ => ?_
      exact ⟨type, .none, field, .none, noKeys⟩
  | deleteField owner name =>
      refine .mapError (.bind (field_meets rfl rfl) fun _ ⟨type, field⟩ => ?_)
      exact ⟨type, .none, field, .none, noKeys⟩
  | moveField owner name toType before =>
      refine .mapError (.bind (field_meets rfl rfl) fun _ ⟨type, field⟩ => ?_)
      cases before with
      | none =>
          change Except.Meets _ _ (schema.resolveType toType >>= _)
          refine .bind (target_meets rfl) fun _ target => ?_
          exact ⟨type, target, field, .none, noKeys⟩
      | some before =>
          refine .bind (before_meets rfl rfl) fun ⟨_, _⟩ found => ?_
          change Except.Meets _ _ (schema.resolveType toType >>= _)
          refine .bind (target_meets rfl) fun _ target => ?_
          exact ⟨type, target, field, found, noKeys⟩
  | setFieldType owner name fieldType =>
      refine .mapError (.bind (field_meets rfl rfl) fun _ ⟨type, field⟩ => ?_)
      refine .bind (identifier_meets rfl) fun _ _ => ?_
      exact ⟨type, .none, field, .none, noKeys⟩
  | setList owner name list =>
      refine .mapError (.bind (field_meets rfl rfl) fun _ ⟨type, field⟩ => ?_)
      exact ⟨type, .none, field, .none, noKeys⟩
  | setRequired owner name required =>
      refine .mapError (.bind (field_meets rfl rfl) fun _ ⟨type, field⟩ => ?_)
      exact ⟨type, .none, field, .none, noKeys⟩
  | setDescription owner name description =>
      refine .mapError (.bind (described_meets rfl rfl) fun _ ⟨type, field⟩ => ?_)
      exact ⟨type, .none, field, .none, noKeys⟩
  | addEnumValue owner value =>
      refine .mapError (.bind (owner_meets rfl) fun _ type => ?_)
      refine .bind (identifier_meets rfl) fun _ _ => ?_
      exact ⟨type, .none, .none, .none, noKeys⟩
  | deleteEnumValue owner value =>
      refine .mapError (.bind (owner_meets rfl) fun _ type => ?_)
      refine .bind (identifier_meets rfl) fun _ _ => ?_
      exact ⟨type, .none, .none, .none, noKeys⟩
  | setDirective owner name text =>
      rw [resolve]
      cases decoded : Directive.decode text with
      | error errors => exact .unreadable rfl decoded
      | ok directive =>
          refine .mapError (.bind (described_meets rfl rfl) fun _ ⟨type, field⟩ => ?_)
          refine ⟨type, .none, field, .none, fun key member => ?_⟩
          obtain ⟨entry, among, rfl⟩ := List.mem_map.mp member
          exact Directive.keysIdentified_of_decode decoded entry among
  | removeDirective owner name directive =>
      refine .mapError (.bind (described_meets rfl rfl) fun _ ⟨type, field⟩ => ?_)
      refine .bind (identifier_meets rfl) fun _ _ => ?_
      exact ⟨type, .none, field, .none, noKeys⟩
  | setScope owner name scope =>
      refine .mapError (.bind (described_meets rfl rfl) fun _ ⟨type, field⟩ => ?_)
      exact ⟨type, .none, field, .none, noKeys⟩

end ScriptStep

/-- The refusals of an edit that addresses existing entities and has identifiers for keys. -/
inductive SchemaError.AfterLookup : SchemaError → Prop where
  | nameConflict (name : Name) (within : Option Name) : AfterLookup (.nameConflict name within)
  | kindMismatch (typeName : Name) (expected : TypeKind) :
      AfterLookup (.kindMismatch typeName expected)
  | unknownEnumValue (typeName value : Name) : AfterLookup (.unknownEnumValue typeName value)

theorem exists_of_rel_some {α β : Type} {related : α → β → Prop} {item : α} {other : Option β}
    (rel : Option.Rel related (some item) other) : ∃ found, other = some found ∧ related item found := by
  cases rel with
  | some both => exact ⟨_, rfl, both⟩

namespace Schema

variable {schema : Schema} {typeId : TypeId} {fieldId : FieldId} {edit : Edit} {error : SchemaError}

theorem IsTypeNamed.typeFault?_eq_none {name : Text} (named : schema.IsTypeNamed typeId name) :
    schema.typeFault? typeId = none := by
  obtain ⟨decl, first, rfl⟩ := named
  exact if_pos (List.any_eq_true.mpr ⟨decl, first.mem, decide_eq_true rfl⟩)

theorem bind_typeFault?_of_named {id : Option TypeId} {name : Option Text}
    (named : Option.Rel schema.IsTypeNamed id name) : id.bind schema.typeFault? = none := by
  cases named with
  | none => rfl
  | some found => exact found.typeFault?_eq_none

/-- Distinct ids lead back to the declarations that the names were looked up in. -/
theorem IsFieldNamed.fieldFault?_eq_none {owner name : Text} (distinct : schema.IdsDistinct)
    (ownerNamed : schema.IsTypeNamed typeId owner)
    (named : schema.IsFieldNamed owner fieldId name) :
    schema.fieldFault? typeId fieldId = none := by
  obtain ⟨decl, first, rfl⟩ := ownerNamed
  obtain ⟨other, field, otherFirst, firstField, rfl⟩ := named
  have same : some decl = some other :=
    (typeNamed?_eq_some_iff.mpr first).symm.trans (typeNamed?_eq_some_iff.mpr otherFirst)
  cases same
  rw [fieldFault?, type?_of_mem distinct first.mem, Option.bind_some]
  exact if_pos (List.any_eq_true.mpr ⟨field, firstField.mem, decide_eq_true rfl⟩)

theorem afterLookup_of_kindFault? {kind : TypeKind}
    (fault : schema.kindFault? typeId kind = some error) : error.AfterLookup := by
  obtain ⟨decl, -, mismatch⟩ := Option.bind_eq_some_iff.mp fault
  split at mismatch
  · cases mismatch
  · cases mismatch
    exact .kindMismatch decl.name kind

theorem afterLookup_of_contentFault? (fault : schema.contentFault? edit = some error) :
    error.AfterLookup := by
  cases edit with
  | renameType typeId newName =>
      rw [contentFault?] at fault
      split at fault
      · cases fault
        exact .nameConflict newName none
      · cases fault
  | renameField typeId fieldId newName =>
      obtain ⟨decl, -, conflict⟩ := Option.bind_eq_some_iff.mp fault
      split at conflict
      · cases conflict
        exact .nameConflict newName (some decl.name)
      · cases conflict
  | deleteEnumValue typeId value =>
      obtain ⟨decl, -, absent⟩ := Option.bind_eq_some_iff.mp fault
      split at absent
      · cases absent
      · cases absent
        exact .unknownEnumValue decl.name value
  | _ => cases fault

end Schema

namespace ScriptStep

variable {schema : Schema} {step : ScriptStep} {edit : Edit} {error : SchemaError}

namespace Addresses

theorem argumentKeys_fault (addresses : step.Addresses schema edit) :
    schema.fault? edit .argumentKeys = none := by
  have noneInvalid : (edit.argumentKeys.find? fun key => !isIdentifier key) = none :=
    List.find?_eq_none.mpr fun key member => by simp [addresses.keys key member]
  rw [Schema.fault?, noneInvalid, Option.map_none]

theorem typeExists_fault (addresses : step.Addresses schema edit) :
    schema.fault? edit .typeExists = none :=
  Schema.bind_typeFault?_of_named addresses.type

theorem targetExists_fault (addresses : step.Addresses schema edit) :
    schema.fault? edit .targetExists = none :=
  Schema.bind_typeFault?_of_named addresses.target

theorem fieldExists_fault (distinct : schema.IdsDistinct) (addresses : step.Addresses schema edit) :
    schema.fault? edit .fieldExists = none := by
  refine Option.bind_eq_none_iff.mpr fun typeId typeAddressed =>
    Option.bind_eq_none_iff.mpr fun fieldId fieldAddressed => ?_
  obtain ⟨owner, ownerGiven, ownerNamed⟩ := exists_of_rel_some (typeAddressed ▸ addresses.type)
  obtain ⟨name, -, other, otherGiven, named⟩ :=
    exists_of_rel_some (fieldAddressed ▸ addresses.field)
  cases ownerGiven.symm.trans otherGiven
  exact named.fieldFault?_eq_none distinct ownerNamed

end Addresses

theorem afterLookup_of_apply {fresh : FreshIds} (distinct : schema.IdsDistinct)
    (addresses : step.Addresses schema edit) (refused : schema.apply fresh edit = .error error) :
    error.AfterLookup := by
  obtain ⟨check, -, fault⟩ :=
    List.exists_of_findSome?_eq_some (Schema.apply_eq_error_iff.mp refused)
  cases check with
  | argumentKeys =>
      rw [addresses.argumentKeys_fault] at fault
      cases fault
  | typeExists =>
      rw [addresses.typeExists_fault] at fault
      cases fault
  | targetExists =>
      rw [addresses.targetExists_fault] at fault
      cases fault
  | typeKind =>
      obtain ⟨typeId, -, kindFault⟩ := Option.bind_eq_some_iff.mp fault
      obtain ⟨kind, -, mismatch⟩ := Option.bind_eq_some_iff.mp kindFault
      exact Schema.afterLookup_of_kindFault? mismatch
  | fieldExists =>
      rw [addresses.fieldExists_fault distinct] at fault
      cases fault
  | targetKind =>
      obtain ⟨typeId, -, mismatch⟩ := Option.bind_eq_some_iff.mp fault
      exact Schema.afterLookup_of_kindFault? mismatch
  | content => exact Schema.afterLookup_of_contentFault? fault

/-- A step that is resolved addresses the first entities with the names it gives, and the schema it was
resolved against refuses its edit only for a name that is taken, a kind or an enum value.  A step that is
not resolved names something that is not there, or it has a text that cannot be read. -/
theorem resolve_addresses (distinct : schema.IdsDistinct) (step : ScriptStep) :
    (∀ edit, step.resolve schema = .ok edit → step.Addresses schema edit ∧
      ∀ fresh error, schema.apply fresh edit = .error error → error.AfterLookup) ∧
    ∀ error, step.resolve schema = .error error → step.Unresolved schema error := by
  have meets := step.resolve_meets schema
  constructor
  · intro edit resolved
    rw [resolved] at meets
    exact ⟨meets, fun fresh error refused => afterLookup_of_apply distinct meets refused⟩
  · intro error failed
    rw [failed] at meets
    exact meets

end ScriptStep

/-- Two types of one name, the first with two fields of one name, and an enum. -/
def Schema.namesakes : Schema :=
  ⟨[{ name := Name.literal "Pet", id := Id.ofNat 0, body := .object
        [{ name := Name.literal "tag", typeName := Name.literal "Animal", id := Id.ofNat 0 },
          { name := Name.literal "tag", typeName := Name.literal "Pet", id := Id.ofNat 1 },
          { name := Name.literal "age", typeName := Name.literal "Years", id := Id.ofNat 2 }] },
    { name := Name.literal "Pet", id := Id.ofNat 1, body := .object
        [{ name := Name.literal "tag", typeName := Name.literal "Animal", id := Id.ofNat 3 }] },
    { name := Name.literal "Animal", id := Id.ofNat 2, body := .enumeration [Name.literal "CAT"] }]⟩

/-- A step finds the first of the two fields and cannot give it the name of the third.  An enum has no
fields to be found. -/
theorem ScriptStep.resolve_namesakes :
    Schema.namesakes.IdsDistinct ∧
    ((renameField "Pet".toList "tag".toList "age".toList).Addresses Schema.namesakes
        (.renameField (Id.ofNat 0) (Id.ofNat 0) (Name.literal "age")) ∧
      Schema.namesakes.apply ⟨Id.ofNat 3, Id.ofNat 4⟩
          (.renameField (Id.ofNat 0) (Id.ofNat 0) (Name.literal "age")) =
        .error (.nameConflict (Name.literal "age") (some (Name.literal "Pet"))) ∧
      SchemaError.AfterLookup
        (.nameConflict (Name.literal "age") (some (Name.literal "Pet")))) ∧
    (deleteField "Animal".toList "tag".toList).Unresolved Schema.namesakes
      (.refused (.unknownField "Animal".toList "tag".toList)) := by
  have distinct : Schema.namesakes.IdsDistinct := ⟨by decide, by decide⟩
  have refused : Schema.namesakes.apply ⟨Id.ofNat 3, Id.ofNat 4⟩
      (.renameField (Id.ofNat 0) (Id.ofNat 0) (Name.literal "age")) =
        .error (.nameConflict (Name.literal "age") (some (Name.literal "Pet"))) := by
    decide
  obtain ⟨addresses, late⟩ := (resolve_addresses distinct
    (renameField "Pet".toList "tag".toList "age".toList)).1
      (.renameField (Id.ofNat 0) (Id.ofNat 0) (Name.literal "age")) (by decide)
  exact ⟨distinct, ⟨addresses, refused, late _ _ refused⟩,
    (resolve_addresses distinct (deleteField "Animal".toList "tag".toList)).2 _ (by decide)⟩

end SdlWorkbench
