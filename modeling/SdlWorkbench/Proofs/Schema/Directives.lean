import SdlWorkbench.Proofs.Schema.Metadata
import SdlWorkbench.Proofs.Schema.Ownership
/-!
Setting a directive and reading it back.

However many directives of one name a target carries, setting one of that name leaves it as the only one,
where the first of them stood, and all others as they were.  An access scope that is set is read back
without the white space around it, whatever access-scope directives were there.
-/

namespace SdlWorkbench

namespace Text

theorem all_dropTrailing (p : Char → Bool) (text : Text) :
    (dropTrailing p text).all p = text.all p := by
  induction text with
  | nil => rfl
  | cons c rest ih =>
      rw [dropTrailing, List.all_cons, ← ih]
      cases dropTrailing p rest with
      | nil => cases holds : p c <;> simp [holds]
      | cons d more => rfl

theorem all_dropWhile (p : Char → Bool) (text : Text) :
    (text.dropWhile p).all p = text.all p := by
  induction text with
  | nil => rfl
  | cons c rest ih =>
      rw [List.dropWhile_cons, List.all_cons]
      cases holds : p c with
      | true => rw [if_pos rfl, ih, Bool.true_and]
      | false => rw [if_neg Bool.false_ne_true, List.all_cons, holds]

theorem isBlank_trim (text : Text) : text.trim.isBlank = text.isBlank :=
  (all_dropTrailing isWhiteSpace _).trans (all_dropWhile isWhiteSpace text)

end Text

namespace Schema

variable {new : Directive} {directives : List Directive}

theorem filter_placeDirective_other (new : Directive) (directives : List Directive) :
    (placeDirective new directives).filter (fun directive => directive.name ≠ new.name) =
      directives.filter fun directive => directive.name ≠ new.name := by
  induction directives with
  | nil => simp [placeDirective]
  | cons first rest ih =>
      rw [placeDirective]
      by_cases same : first.name = new.name
      · simp [same]
      · simp only [if_neg same, List.filter_cons, ih]

theorem filter_placeDirective_self (new : Directive) (directives : List Directive) :
    (placeDirective new directives).filter (fun directive => directive.name = new.name) =
      [new] := by
  induction directives with
  | nil => simp [placeDirective]
  | cons first rest ih =>
      rw [placeDirective]
      by_cases same : first.name = new.name
      · simp [same]
      · simp [same, ih]

theorem getElem?_placeDirective (new : Directive) (directives : List Directive) :
    (placeDirective new directives)[directives.findIdx fun directive =>
      directive.name = new.name]? = some new := by
  induction directives with
  | nil => rfl
  | cons first rest ih =>
      rw [placeDirective, List.findIdx_cons]
      by_cases same : first.name = new.name
      · simp [same]
      · simp [same, ih]

theorem placeDirective_of_absent (absent : ∀ directive ∈ directives, directive.name ≠ new.name) :
    placeDirective new directives = directives ++ [new] := by
  induction directives with
  | nil => rfl
  | cons first rest ih =>
      obtain ⟨other, others⟩ := List.forall_mem_cons.mp absent
      rw [placeDirective, if_neg other, ih others, List.cons_append]

/-- A directive that belongs to the access scope without giving one takes the access scope away. -/
theorem clearsAccessScope_iff (directive : Directive) :
    clearsAccessScope directive = true ↔ ¬ directive.HasScope := by
  constructor
  · intro clears hasScope
    rw [clearsAccessScope, Bool.and_eq_true] at clears
    obtain ⟨isScope, without⟩ := clears
    obtain ⟨scope, found, notBlank⟩ := hasScope (of_decide_eq_true isScope)
    rw [Family.value?, if_pos (of_decide_eq_true isScope), found, Option.map_some,
      Option.getD_some, notBlank] at without
    cases without
  · intro noScope
    by_contra kept
    exact noScope (hasScope_of_not_clears (eq_false_of_ne_true kept))

end Schema

/-- The second list is the first one after a directive was set. -/
structure Directive.IsSet (new : Directive) (before after : List Directive) : Prop where
  /-- An access scope that is missing or blank leaves no directive of its name. -/
  cleared : ¬ new.HasScope → ∀ directive ∈ after, directive.name ≠ new.name
  only : new.HasScope → after.filter (fun directive => directive.name = new.name) = [new]
  placed : new.HasScope →
    after[before.findIdx fun directive => directive.name = new.name]? = some new
  appended : new.HasScope → (∀ directive ∈ before, directive.name ≠ new.name) →
    after = before ++ [new]
  others : after.filter (fun directive => directive.name ≠ new.name) =
    before.filter fun directive => directive.name ≠ new.name

namespace Schema

theorem isSet_withDirective (new : Directive) (directives : List Directive) :
    new.IsSet directives (withDirective new directives) := by
  rw [withDirective]
  by_cases clears : clearsAccessScope new = true
  · have noScope := (clearsAccessScope_iff new).mp clears
    rw [if_pos clears]
    refine ⟨fun _ directive member => ?_, fun hasScope => absurd hasScope noScope,
      fun hasScope => absurd hasScope noScope, fun hasScope => absurd hasScope noScope, ?_⟩
    · simpa using (List.mem_filter.mp member).2
    · rw [List.filter_filter]
      simp only [Bool.and_self]
  · have hasScope : new.HasScope := by
      by_contra noScope
      exact clears ((clearsAccessScope_iff new).mpr noScope)
    rw [if_neg clears]
    exact ⟨fun noScope => absurd hasScope noScope, fun _ => filter_placeDirective_self new directives,
      fun _ => getElem?_placeDirective new directives, fun _ => placeDirective_of_absent,
      filter_placeDirective_other new directives⟩

end Schema

theorem TypeDecl.requireField_updateField {decl : TypeDecl} {fieldId : FieldId} {field : FieldDecl}
    {f : FieldDecl → FieldDecl} (keeps : ∀ field : FieldDecl, (f field).id = field.id)
    (found : decl.requireField fieldId = .ok field) :
    (decl.updateField fieldId f).requireField fieldId = .ok (f field) := by
  obtain ⟨fields, isObject, among⟩ := requireField_eq_ok_iff.mp found
  refine requireField_eq_ok_iff.mpr
    ⟨updateFirst (fun other => other.id = fieldId) f fields, ?_, ?_⟩
  · rw [updateField, mapFields, isObject]
    rfl
  · rw [find?_updateFirst (by simp [keeps]), among, Option.map_some]

namespace Schema

variable {schema : Schema} {target : EditTarget} {before : List Directive}

theorem requireDirectives_updateDirectives
    (found : schema.requireDirectives target = .ok before) (f : List Directive → List Directive) :
    (schema.updateDirectives target f).requireDirectives target = .ok (f before) := by
  cases target with
  | type typeId =>
      simp only [requireDirectives, Except.bind_eq_ok_iff, Except.pure_eq_ok_iff] at found ⊢
      obtain ⟨decl, isType, rfl⟩ := found
      let write (decl : TypeDecl) : TypeDecl := { decl with directives := f decl.directives }
      exact ⟨write decl, requireType_updateType_self (f := write) (fun _ => rfl) isType, rfl⟩
  | field typeId fieldId =>
      simp only [requireDirectives, Except.bind_eq_ok_iff, Except.pure_eq_ok_iff] at found ⊢
      obtain ⟨decl, isType, field, isField, rfl⟩ := found
      let write (field : FieldDecl) : FieldDecl := { field with directives := f field.directives }
      exact ⟨decl.updateField fieldId write,
        requireType_updateType_self (f := TypeDecl.updateField fieldId write) (fun _ => rfl) isType,
        write field, TypeDecl.requireField_updateField (f := write) (fun _ => rfl) isField, rfl⟩

/-- Setting a directive with identifiers for keys succeeds on every target that is there. -/
theorem setDirective_of_requireDirectives {new : Directive}
    (found : schema.requireDirectives target = .ok before)
    (identified : new.arguments.KeysIdentified) :
    ∃ after, schema.setDirective target new = .ok after ∧
      after.requireDirectives target = .ok (withDirective new before) :=
  ⟨_, setDirective_eq_ok_iff.mpr ⟨identified, before, found, rfl⟩,
    requireDirectives_updateDirectives found _⟩

end Schema

theorem Directive.accessScope?_eq (directives : List Directive) :
    accessScope? directives = accessScope? (directives.filter fun directive =>
      directive.name = Family.accessScope.name) := by
  induction directives with
  | nil => rfl
  | cons first rest ih =>
      rw [accessScope?] at ih ⊢
      rw [List.findSome?_cons, List.filter_cons, ih, Family.value?]
      by_cases isScope : first.name = Family.accessScope.name
      · rw [if_pos isScope, if_pos (decide_eq_true isScope), accessScope?, accessScope?,
          List.findSome?_cons, Family.value?, if_pos isScope]
      · rw [if_neg isScope, if_neg (by simpa using isScope)]

theorem Family.get?_compose (family : Family) (value : Text) :
    (family.compose value).arguments.get? family.argument = some value := by
  simp [Arguments.get?, compose, Arguments.insert, Arguments.empty, Arguments.insertEntry]

theorem Family.keysIdentified_compose (family : Family) (value : Text) :
    (family.compose value).arguments.KeysIdentified := by
  intro entry member
  obtain rfl : entry = (family.argument, value) := List.mem_singleton.mp member
  change isIdentifier family.argument = true
  cases family <;> decide

theorem Family.hasScope_compose_iff (scope : Text) :
    (accessScope.compose scope).HasScope ↔ scope.isBlank = false := by
  rw [Directive.HasScope, get?_compose]
  constructor
  · intro hasScope
    obtain ⟨found, same, notBlank⟩ := hasScope rfl
    cases same
    exact notBlank
  · intro notBlank _
    exact ⟨scope, rfl, notBlank⟩

theorem Directive.IsSet.accessScope?_eq_trim {scope : Text} {before after : List Directive}
    (isSet : (Family.accessScope.compose scope.trim).IsSet before after) :
    Directive.accessScope? after = if scope.isBlank = true then none else some scope.trim := by
  rw [Directive.accessScope?_eq]
  by_cases blank : scope.isBlank = true
  · have noScope : ¬ (Family.accessScope.compose scope.trim).HasScope := by
      rw [Family.hasScope_compose_iff, Text.isBlank_trim, blank]
      exact Bool.noConfusion
    have nothing : after.filter (fun directive => directive.name = Family.accessScope.name) = [] :=
      List.filter_eq_nil_iff.mpr fun directive member =>
        decide_eq_true_iff.not.mpr (isSet.cleared noScope directive member)
    rw [if_pos blank, nothing, Directive.accessScope?, List.findSome?_nil]
  · have hasScope : (Family.accessScope.compose scope.trim).HasScope := by
      rw [Family.hasScope_compose_iff, Text.isBlank_trim]
      exact eq_false_of_ne_true blank
    have only : after.filter (fun directive => directive.name = Family.accessScope.name) =
        [Family.accessScope.compose scope.trim] := isSet.only hasScope
    have value : Family.accessScope.value? (Family.accessScope.compose scope.trim) =
        some scope.trim := by
      rw [Family.value?, Family.get?_compose]
      exact if_pos rfl
    rw [if_neg blank, only, Directive.accessScope?, List.findSome?_cons, value]

namespace Schema

variable {schema : Schema} {target : EditTarget} {before : List Directive}

/-- A directive that is set stands alone for its name, and all others stay.  The access scope that is
then read is the one that was set, without white space around it, and none after a blank one. -/
theorem setDirective_isSet (found : schema.requireDirectives target = .ok before) :
    (∀ new : Directive, new.arguments.KeysIdentified →
      ∃ after directives, schema.setDirective target new = .ok after ∧
        after.requireDirectives target = .ok directives ∧ new.IsSet before directives) ∧
    ∀ scope : Text, ∃ after directives, schema.setAccessScope target scope = .ok after ∧
      after.requireDirectives target = .ok directives ∧
      Directive.accessScope? directives =
        if scope.isBlank = true then none else some scope.trim := by
  constructor
  · intro new identified
    obtain ⟨after, done, left⟩ := setDirective_of_requireDirectives found identified
    exact ⟨after, _, done, left, isSet_withDirective new before⟩
  · intro scope
    have identified := Family.accessScope.keysIdentified_compose scope.trim
    obtain ⟨after, done, left⟩ := setDirective_of_requireDirectives found identified
    exact ⟨after, _, done, left, (isSet_withDirective _ before).accessScope?_eq_trim⟩

/-- Three access-scope directives, of which the first gives no scope and the last a blank one. -/
def overscopedDirectives : List Directive :=
  [{ name := Name.literal "opening" }, { name := Family.accessScope.name },
    Family.accessScope.compose "user".toList, { name := Name.literal "closing" },
    Family.accessScope.compose " ".toList]

def overscoped : Schema :=
  ⟨[{ name := Name.literal "Record", id := Id.ofNat 0, body := .object
        [{ name := Name.literal "entry", typeName := Name.literal "Record", id := Id.ofNat 0,
           directives := overscopedDirectives }] }]⟩

theorem overscoped_isSet :
    overscoped.requireDirectives (.field (Id.ofNat 0) (Id.ofNat 0)) = .ok overscopedDirectives ∧
    (Family.accessScope.compose "admin".toList).arguments.KeysIdentified ∧
    (∃ after directives, overscoped.setDirective (.field (Id.ofNat 0) (Id.ofNat 0))
        (Family.accessScope.compose "admin".toList) = .ok after ∧
      after.requireDirectives (.field (Id.ofNat 0) (Id.ofNat 0)) = .ok directives ∧
      (Family.accessScope.compose "admin".toList).IsSet overscopedDirectives directives) ∧
    ∃ after directives, overscoped.setAccessScope (.field (Id.ofNat 0) (Id.ofNat 0))
        " admin ".toList = .ok after ∧
      after.requireDirectives (.field (Id.ofNat 0) (Id.ofNat 0)) = .ok directives ∧
      Directive.accessScope? directives = some "admin".toList := by
  have found : overscoped.requireDirectives (.field (Id.ofNat 0) (Id.ofNat 0)) =
      .ok overscopedDirectives := by
    decide
  have identified := Family.accessScope.keysIdentified_compose "admin".toList
  obtain ⟨placed, readBack⟩ := setDirective_isSet found
  exact ⟨found, identified, placed _ identified, readBack " admin ".toList⟩

end Schema

end SdlWorkbench
