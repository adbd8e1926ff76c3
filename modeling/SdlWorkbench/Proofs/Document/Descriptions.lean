import SdlWorkbench.Proofs.Document.Rereading
/-!
The descriptions of a document.

What printing a document and reading it again changes is a function on descriptions.  The document,
its tokens and its text are kept exactly when the function keeps each description and its token.
-/

namespace SdlWorkbench

namespace Field

def descriptions (field : Field) : List Text :=
  field.description.toList

end Field

namespace Declaration

def descriptions (declaration : Declaration Field) : List Text :=
  declaration.description.toList ++ declaration.body.fields.flatMap Field.descriptions

theorem forall_mem_descriptions {declaration : Declaration Field} {holds : Text → Prop} :
    (∀ text ∈ declaration.descriptions, holds text) ↔
      (∀ text ∈ declaration.description.toList, holds text) ∧
        ∀ field ∈ declaration.body.fields, ∀ text ∈ field.descriptions, holds text := by
  rw [descriptions, List.forall_mem_append, List.forall_mem_flatMap]

end Declaration

namespace Document

def descriptions (document : Document) : List Text :=
  document.flatMap Declaration.descriptions

theorem forall_mem_descriptions {document : Document} {holds : Text → Prop} :
    (∀ text ∈ document.descriptions, holds text) ↔
      ∀ declaration ∈ document, ∀ text ∈ declaration.descriptions, holds text := by
  rw [descriptions, List.forall_mem_flatMap]

end Document

private theorem list_map_eq_self_iff {α : Type} {f : α → α} {items : List α} :
    items.map f = items ↔ ∀ item ∈ items, f item = item := by
  have inj := List.map_inj_left (l := items) (f := f) (g := id)
  rw [List.map_id] at inj
  exact inj

theorem Field.mapDescription_eq_self_iff {f : Text → Text} {field : Field} :
    field.mapDescription f = field ↔ ∀ text ∈ field.descriptions, f text = text := by
  obtain ⟨_, _, _, _, description, _⟩ := field
  cases description <;> simp [Field.mapDescription, Field.descriptions]

theorem Body.map_eq_self_iff {f : Field → Field} {body : Body Field} :
    body.map f = body ↔ ∀ field ∈ body.fields, f field = field := by
  cases body with
  | object fields =>
      rw [Body.map, Body.object.injEq]
      exact list_map_eq_self_iff
  | enumeration values => simp [Body.map, Body.fields]

theorem Declaration.mapDescriptions_eq_self_iff {f : Text → Text}
    {declaration : Declaration Field} : declaration.mapDescriptions f = declaration ↔
      ∀ text ∈ declaration.descriptions, f text = text := by
  rw [Declaration.forall_mem_descriptions]
  simp only [← Field.mapDescription_eq_self_iff]
  rw [← Body.map_eq_self_iff]
  obtain ⟨_, description, _, _⟩ := declaration
  cases description <;> simp [Declaration.mapDescriptions]

theorem Document.mapDescriptions_eq_self_iff {f : Text → Text} {document : Document} :
    document.mapDescriptions f = document ↔ ∀ text ∈ document.descriptions, f text = text := by
  rw [Document.forall_mem_descriptions, Document.mapDescriptions, list_map_eq_self_iff]
  simp only [Declaration.mapDescriptions_eq_self_iff]

private theorem forall_mem_map_iff {α : Type} {f : α → α} {value : Option α} {holds : α → Prop} :
    (∀ inner ∈ value.map f, holds inner) ↔ ∀ inner ∈ value.toList, holds (f inner) := by
  cases value <;> simp

theorem Field.fault?_mapDescription_iff {f : Text → Text} {field : Field} {owner : Name}
    (sound : field.fault? owner = none) : (field.mapDescription f).fault? owner = none ↔
      ∀ text ∈ field.descriptions, (f text).isDescribable = true := by
  have directivesSound := ((field.fault?_eq_none_iff owner).mp sound).2
  rw [Field.fault?_eq_none_iff, Field.mapDescription, forall_mem_map_iff]
  exact and_iff_left directivesSound

private theorem mem_fields_map {f : Field → Field} {body : Body Field} {holds : Field → Prop} :
    (∀ field ∈ (body.map f).fields, holds field) ↔ ∀ field ∈ body.fields, holds (f field) := by
  cases body <;> simp [Body.map, Body.fields]

theorem Declaration.fault?_mapDescriptions_iff {f : Text → Text} {declaration : Declaration Field}
    (sound : declaration.fault? = none) : (declaration.mapDescriptions f).fault? = none ↔
      ∀ text ∈ declaration.descriptions, (f text).isDescribable = true := by
  obtain ⟨-, directivesSound, fieldsSound⟩ := declaration.fault?_eq_none_iff.mp sound
  have fields : (∀ field ∈ declaration.body.fields,
      (field.mapDescription f).fault? declaration.name = none) ↔
        ∀ field ∈ declaration.body.fields, ∀ text ∈ field.descriptions,
          (f text).isDescribable = true :=
    forall₂_congr fun field member => Field.fault?_mapDescription_iff (fieldsSound field member)
  rw [Declaration.fault?_eq_none_iff, Declaration.mapDescriptions, forall_mem_map_iff,
    mem_fields_map, Declaration.forall_mem_descriptions, fields]
  exact and_congr_right fun _ => and_iff_right directivesSound

theorem Document.fault?_mapDescriptions_iff {f : Text → Text} {document : Document}
    (sound : document.fault? = none) : (document.mapDescriptions f).fault? = none ↔
      ∀ text ∈ document.descriptions, (f text).isDescribable = true := by
  rw [Document.fault?_eq_none_iff] at sound
  rw [Document.fault?_eq_none_iff, Document.forall_mem_descriptions, Document.mapDescriptions,
    List.forall_mem_map]
  exact forall₂_congr fun declaration member =>
    Declaration.fault?_mapDescriptions_iff (sound declaration member)

/-- At every indentation a description is written as the same token after the change. -/
def Text.KeepsToken (f : Text → Text) (text : Text) : Prop :=
  ∀ width, Lexeme.ofDescription (List.replicate width ' ') (f text) =
    Lexeme.ofDescription (List.replicate width ' ') text

theorem renderOptionalDescription_map {f : Text → Text} {description : Option Text}
    (keeps : ∀ text ∈ description.toList, Text.KeepsToken f text) (width : Nat) :
    renderOptionalDescription (List.replicate width ' ') (description.map f) =
      renderOptionalDescription (List.replicate width ' ') description := by
  cases description with
  | none => rfl
  | some text =>
      have same := keeps text (by simp) width
      change renderDescription _ (f text) = renderDescription _ text
      rw [renderDescription_eq, renderDescription_eq, same]

theorem Body.render_map {f : Text → Text} {body : Body Field}
    (keeps : ∀ field ∈ body.fields, ∀ text ∈ field.descriptions, Text.KeepsToken f text)
    (width : Nat) : (body.map (Field.mapDescription f)).render (List.replicate width ' ') =
      body.render (List.replicate width ' ') := by
  cases body with
  | enumeration values => rfl
  | object fields =>
      change (fields.map _).flatMap _ = fields.flatMap _
      rw [List.flatMap_map]
      refine List.flatMap_congr fun field member => ?_
      rw [Field.render, Field.mapDescription,
        renderOptionalDescription_map (keeps field member) width]
      rfl

theorem Declaration.render_mapDescriptions {f : Text → Text} {declaration : Declaration Field}
    (keeps : ∀ text ∈ declaration.descriptions, Text.KeepsToken f text) (width : Nat) :
    (declaration.mapDescriptions f).render (List.replicate width ' ') =
      declaration.render (List.replicate width ' ') := by
  rw [Declaration.forall_mem_descriptions] at keeps
  have kind : (declaration.body.map (Field.mapDescription f)).kind = declaration.body.kind := by
    cases declaration.body <;> rfl
  have description := renderOptionalDescription_map keeps.1 0
  rw [List.replicate_zero] at description
  rw [Declaration.render, Declaration.mapDescriptions, Body.render_map keeps.2 width, description,
    kind]
  rfl

/-- A document is written as the same text when each of its descriptions keeps its token. -/
theorem Document.render_mapDescriptions {f : Text → Text} {document : Document}
    (keeps : ∀ text ∈ document.descriptions, Text.KeepsToken f text) (width : Nat) :
    (document.mapDescriptions f).render width = document.render width := by
  rw [Document.forall_mem_descriptions] at keeps
  rw [Document.render, Document.mapDescriptions, List.map_map, Document.render]
  congr 1
  exact List.map_congr_left fun declaration member =>
    Declaration.render_mapDescriptions (keeps declaration member) width

private theorem parts_eq_of_flatMap_eq {α β : Type} {f : α → α} {parts : α → List β}
    (sameLength : ∀ item, (parts (f item)).length = (parts item).length) {items : List α}
    (same : (items.map f).flatMap parts = items.flatMap parts) :
    ∀ item ∈ items, parts (f item) = parts item := by
  induction items with
  | nil =>
      intro item impossible
      cases impossible
  | cons first more ih =>
      rw [List.map_cons, List.flatMap_cons, List.flatMap_cons] at same
      obtain ⟨firstSame, moreSame⟩ := List.append_inj same (sameLength first)
      intro item member
      rcases List.mem_cons.mp member with rfl | later
      · exact firstSame
      · exact ih moreSame item later

private theorem length_descriptionLexemes_map (f : Text → Text) (indent : Text)
    (description : Option Text) : (descriptionLexemes indent (description.map f)).length =
      (descriptionLexemes indent description).length := by
  cases description <;> rfl

private theorem sameToken_of_descriptionLexemes {f : Text → Text} {indent : Text}
    {description : Option Text}
    (same : descriptionLexemes indent (description.map f) = descriptionLexemes indent description) :
    ∀ text ∈ description.toList,
      Lexeme.ofDescription indent (f text) = Lexeme.ofDescription indent text := by
  cases description with
  | none => simp
  | some text => simpa [descriptionLexemes] using same

private theorem Field.length_lexemes_mapDescription (f : Text → Text) (indent : Text)
    (field : Field) :
    ((field.mapDescription f).lexemes indent).length = (field.lexemes indent).length := by
  rw [Field.lexemes, Field.lexemes, List.length_append, List.length_append]
  exact congrArg (· + _) (length_descriptionLexemes_map f indent field.description)

private theorem Body.length_lexemes_map (f : Text → Text) (indent : Text) (body : Body Field) :
    ((body.map (Field.mapDescription f)).lexemes indent).length =
      (body.lexemes indent).length := by
  cases body with
  | enumeration values => rfl
  | object fields =>
      change ((fields.map _).flatMap _).length = (fields.flatMap _).length
      rw [List.flatMap_map, List.length_flatMap, List.length_flatMap]
      congr 1
      exact List.map_congr_left fun field _ => Field.length_lexemes_mapDescription f indent field

private theorem Declaration.length_lexemes_mapDescriptions (f : Text → Text) (indent : Text)
    (declaration : Declaration Field) :
    ((declaration.mapDescriptions f).lexemes indent).length =
      (declaration.lexemes indent).length := by
  have described := length_descriptionLexemes_map f [] declaration.description
  have members := Body.length_lexemes_map f indent declaration.body
  simp only [Declaration.lexemes, Declaration.mapDescriptions, List.length_append,
    List.length_cons, described, members]

theorem Field.sameToken_of_lexemes {f : Text → Text} {indent : Text} {field : Field}
    (same : (field.mapDescription f).lexemes indent = field.lexemes indent) :
    ∀ text ∈ field.descriptions,
      Lexeme.ofDescription indent (f text) = Lexeme.ofDescription indent text := by
  rw [Field.lexemes, Field.lexemes] at same
  exact sameToken_of_descriptionLexemes (List.append_inj_left same
    (length_descriptionLexemes_map f indent field.description))

theorem Declaration.sameToken_of_lexemes {f : Text → Text} {width : Nat}
    {declaration : Declaration Field}
    (same : (declaration.mapDescriptions f).lexemes (List.replicate width ' ') =
      declaration.lexemes (List.replicate width ' ')) :
    ∀ text ∈ declaration.descriptions, ∃ indent,
      Lexeme.ofDescription (List.replicate indent ' ') (f text) =
        Lexeme.ofDescription (List.replicate indent ' ') text := by
  rw [Declaration.lexemes, Declaration.lexemes] at same
  obtain ⟨described, header⟩ := List.append_inj same
    (length_descriptionLexemes_map f [] declaration.description)
  rw [Declaration.forall_mem_descriptions]
  refine ⟨fun text member => ⟨0, sameToken_of_descriptionLexemes described text member⟩, ?_⟩
  intro field fieldMember text textMember
  refine ⟨width, ?_⟩
  obtain ⟨name, description, directives, body⟩ := declaration
  cases body with
  | enumeration values => cases fieldMember
  | object fields =>
      simp only [Declaration.mapDescriptions, List.cons.injEq, List.append_cancel_left_eq,
        true_and] at header
      obtain ⟨-, members⟩ := header
      have fieldsSame := List.append_cancel_right members
      exact Field.sameToken_of_lexemes
        (parts_eq_of_flatMap_eq (Field.length_lexemes_mapDescription f _) fieldsSame field
          fieldMember) text textMember

/-- Documents with the same tokens have the same token for each description. -/
theorem Document.sameToken_of_lexemes {f : Text → Text} {width : Nat} {document : Document}
    (same : (document.mapDescriptions f).lexemes width = document.lexemes width) :
    ∀ text ∈ document.descriptions, ∃ indent,
      Lexeme.ofDescription (List.replicate indent ' ') (f text) =
        Lexeme.ofDescription (List.replicate indent ' ') text := by
  rw [Document.forall_mem_descriptions]
  intro declaration member
  exact Declaration.sameToken_of_lexemes
    (parts_eq_of_flatMap_eq (Declaration.length_lexemes_mapDescriptions f _) same declaration
      member)

end SdlWorkbench
