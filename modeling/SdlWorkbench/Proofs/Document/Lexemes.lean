import SdlWorkbench.Proofs.Document.Description
import SdlWorkbench.Proofs.Document.Fault
/-!
The lexemes of canonical text.

The text of a document is read as the lexemes of its declarations one after the other.  Spaces, line
feeds and the commas between arguments stand for nothing.
-/

namespace SdlWorkbench

theorem endsName_cons {c : Char} (ends : isNameChar c = false) (rest : Text) :
    EndsName (c :: rest) := by
  intro d same
  cases same
  exact ends

namespace Directive

def entryLexemes (entry : Text × Text) : List Lexeme :=
  [.identifier entry.1, .mark .colon ':', .string entry.2]

def lexemes (directive : Directive) : List Lexeme :=
  .mark .atSign '@' :: .identifier directive.name.text ::
    (if directive.arguments.entries.isEmpty then []
     else .mark .leftParen '(' :: directive.arguments.entries.flatMap entryLexemes ++
      [.mark .rightParen ')'])

/-- The directives whose canonical text is one: keys are names, and values end on their line. -/
def Spelled (directive : Directive) : Prop :=
  ∀ entry ∈ directive.arguments.entries, isIdentifier entry.1 = true ∧ '\n' ∉ entry.2

theorem spelled_of_fault? {directive : Directive} (sound : directive.fault? = none) :
    directive.Spelled := by
  intro entry member
  obtain ⟨keyValid, quotable⟩ := (directive.fault?_eq_none_iff.mp sound) entry member
  refine ⟨keyValid, fun feed => ?_⟩
  rw [Text.isQuotable, List.all_eq_true] at quotable
  have refused := quotable '\n' feed
  revert refused
  decide

end Directive

theorem Reads.entry {entry : Text × Text} (keyValid : isIdentifier entry.1 = true)
    (noFeed : '\n' ∉ entry.2) {rest : Text} (noQuote : rest.head? ≠ some '"') :
    Reads (Directive.encodeEntry entry ++ rest) (Directive.entryLexemes entry) rest := by
  have text : Directive.encodeEntry entry ++ rest =
      entry.1 ++ (':' :: ('"' :: entry.2.escape ++ '"' :: rest)) := by
    simp [Directive.encodeEntry]
  have colon : TokenKind.ofPunctuation? ':' = some .colon := rfl
  rw [text]
  exact (Reads.identifier keyValid (endsName_cons (by decide) _)).append
    ((Reads.mark colon _).append (Reads.string noFeed noQuote))

theorem Reads.entries {entries : List (Text × Text)}
    (spelled : ∀ entry ∈ entries, isIdentifier entry.1 = true ∧ '\n' ∉ entry.2) {rest : Text}
    (noQuote : rest.head? ≠ some '"') :
    Reads ([','].intercalate (entries.map Directive.encodeEntry) ++ rest)
      (entries.flatMap Directive.entryLexemes) rest := by
  induction entries with
  | nil => exact .done rest
  | cons first more ih =>
      obtain ⟨keyValid, noFeed⟩ := spelled first List.mem_cons_self
      have later := ih fun entry member => spelled entry (List.mem_cons_of_mem first member)
      cases more with
      | nil =>
          simpa using Reads.entry keyValid noFeed noQuote
      | cons second more =>
          have text : [','].intercalate ((first :: second :: more).map Directive.encodeEntry) ++
              rest = Directive.encodeEntry first ++
                (',' :: ([','].intercalate ((second :: more).map Directive.encodeEntry) ++
                  rest)) := by
            simp
          rw [text, List.flatMap_cons]
          exact (Reads.entry keyValid noFeed (by simp)).append (.separator rfl later)

theorem Reads.directive {directive : Directive} (spelled : directive.Spelled) {rest : Text}
    (ends : EndsName rest) : Reads (directive.encode ++ rest) directive.lexemes rest := by
  have atSign : TokenKind.ofPunctuation? '@' = some .atSign := rfl
  have opening : TokenKind.ofPunctuation? '(' = some .leftParen := rfl
  have closing : TokenKind.ofPunctuation? ')' = some .rightParen := rfl
  unfold Directive.encode Directive.lexemes
  split
  · rw [List.append_nil, List.cons_append]
    exact (Reads.mark atSign _).append (Reads.name directive.name ends)
  · have text : '@' :: directive.name.text ++ ('(' :: [','].intercalate
        (directive.arguments.entries.map Directive.encodeEntry) ++ [')']) ++ rest =
          '@' :: (directive.name.text ++ ('(' :: ([','].intercalate
            (directive.arguments.entries.map Directive.encodeEntry) ++ (')' :: rest)))) := by
      simp
    rw [text]
    exact (Reads.mark atSign _).append
      ((Reads.name directive.name (endsName_cons (by decide) _)).append
        ((Reads.mark opening _).append
          ((Reads.entries spelled (by simp)).append (Reads.mark closing rest))))

theorem Reads.directives {directives : List Directive}
    (spelled : ∀ directive ∈ directives, directive.Spelled) {rest : Text} (ends : EndsName rest) :
    Reads (renderDirectives directives ++ rest) (directives.flatMap Directive.lexemes) rest := by
  induction directives with
  | nil => exact .done rest
  | cons first more ih =>
      have later := ih fun directive member => spelled directive (List.mem_cons_of_mem first member)
      have following : EndsName (renderDirectives more ++ rest) := by
        cases more with
        | nil => exact ends
        | cons second more => exact endsName_cons (by decide) _
      have text : renderDirectives (first :: more) ++ rest =
          ' ' :: (first.encode ++ (renderDirectives more ++ rest)) := by
        simp [renderDirectives]
      rw [text, List.flatMap_cons]
      exact .separator rfl
        ((Reads.directive (spelled first List.mem_cons_self) following).append later)

def descriptionLexemes (indent : Text) : Option Text → List Lexeme
  | none => []
  | some text => [.ofDescription indent text]

theorem Reads.optionalDescription (width : Nat) {description : Option Text}
    (describable : ∀ text ∈ description, text.isDescribable = true) (rest : Text) :
    Reads (renderOptionalDescription (List.replicate width ' ') description ++ rest)
      (descriptionLexemes (List.replicate width ' ') description) rest := by
  cases description with
  | none => exact .done rest
  | some text => exact Reads.description width (describable text rfl) rest

namespace Field

/-- The type of a field: its name, in brackets for a list, and a mark when it is required. -/
def typeLexemes (field : Field) : List Lexeme :=
  (if field.isList then
    [.mark .leftBracket '[', .identifier field.typeName.text, .mark .rightBracket ']']
   else [.identifier field.typeName.text]) ++
    (if field.isRequired then [.mark .bang '!'] else [])

def lexemes (indent : Text) (field : Field) : List Lexeme :=
  descriptionLexemes indent field.description ++
    (.identifier field.name.text :: .mark .colon ':' ::
      (field.typeLexemes ++ field.directives.flatMap Directive.lexemes))

end Field

theorem Reads.fieldType (field : Field) {rest : Text} (ends : EndsName rest) :
    Reads (field.typeText ++ rest) field.typeLexemes rest := by
  have bang : TokenKind.ofPunctuation? '!' = some .bang := rfl
  have opening : TokenKind.ofPunctuation? '[' = some .leftBracket := rfl
  have closing : TokenKind.ofPunctuation? ']' = some .rightBracket := rfl
  have mark : Reads ((if field.isRequired then ['!'] else []) ++ rest)
      (if field.isRequired then [.mark .bang '!'] else []) rest := by
    split
    · exact Reads.mark bang rest
    · exact .done rest
  have markEnds : EndsName ((if field.isRequired then ['!'] else []) ++ rest) := by
    split
    · exact endsName_cons (by decide) rest
    · exact ends
  rw [Field.typeText, Field.typeLexemes, List.append_assoc]
  refine Reads.append ?_ mark
  split
  · rw [List.append_assoc, List.cons_append]
    exact (Reads.mark opening _).append
      ((Reads.name field.typeName (endsName_cons (by decide) _)).append (Reads.mark closing _))
  · exact Reads.name field.typeName markEnds

theorem Reads.field (width : Nat) {owner : Name} {field : Field}
    (sound : field.fault? owner = none) (rest : Text) :
    Reads (field.render (List.replicate width ' ') ++ rest)
      (field.lexemes (List.replicate width ' ')) rest := by
  obtain ⟨describable, directivesSound⟩ := (field.fault?_eq_none_iff owner).mp sound
  have colon : TokenKind.ofPunctuation? ':' = some .colon := rfl
  have newlineEnds : EndsName ('\n' :: rest) := endsName_cons (by decide) rest
  have directivesEnd : EndsName (renderDirectives field.directives ++ '\n' :: rest) := by
    cases field.directives with
    | nil => exact newlineEnds
    | cons first more => exact endsName_cons (by decide) _
  have text : field.render (List.replicate width ' ') ++ rest =
      renderOptionalDescription (List.replicate width ' ') field.description ++
        (List.replicate width ' ' ++ (field.name.text ++ (':' :: (' ' ::
          (field.typeText ++ (renderDirectives field.directives ++ ('\n' :: rest))))))) := by
    simp [Field.render]
  rw [text]
  refine (Reads.optionalDescription width describable _).append ?_
  refine (Reads.spaces width _).append ?_
  refine (Reads.name field.name (endsName_cons (by decide) _)).append ?_
  refine (Reads.mark colon _).append (.separator rfl ?_)
  refine (Reads.fieldType field directivesEnd).append ?_
  have spelled := fun directive member =>
    Directive.spelled_of_fault? (directivesSound directive member)
  simpa using (Reads.directives spelled newlineEnds).append (Reads.newline rest)

namespace Body

def lexemes (indent : Text) : Body Field → List Lexeme
  | .object fields => fields.flatMap (Field.lexemes indent)
  | .enumeration values => values.map fun value => .identifier value.text

end Body

theorem Reads.body (width : Nat) {owner : Name} {body : Body Field}
    (sound : ∀ field ∈ body.fields, field.fault? owner = none) (rest : Text) :
    Reads (body.render (List.replicate width ' ') ++ rest)
      (body.lexemes (List.replicate width ' ')) rest := by
  cases body with
  | object fields =>
      change ∀ field ∈ fields, _ at sound
      change Reads (fields.flatMap _ ++ rest) (fields.flatMap _) rest
      induction fields with
      | nil => exact .done rest
      | cons first more ih =>
          rw [List.flatMap_cons, List.flatMap_cons, List.append_assoc]
          exact (Reads.field width (sound first List.mem_cons_self) _).append
            (ih fun field member => sound field (List.mem_cons_of_mem first member))
  | enumeration values =>
      change Reads (values.flatMap _ ++ rest) (values.map _) rest
      clear sound
      induction values with
      | nil => exact .done rest
      | cons first more ih =>
          rw [List.flatMap_cons, List.map_cons, List.append_assoc, List.append_assoc,
            List.append_assoc, List.singleton_append]
          exact (Reads.spaces width _).append
            ((Reads.name first (endsName_cons (by decide) _)).append (.separator rfl ih))

namespace Declaration

def lexemes (indent : Text) (declaration : Declaration Field) : List Lexeme :=
  descriptionLexemes [] declaration.description ++
    (.identifier declaration.body.kind.keyword :: .identifier declaration.name.text ::
      (declaration.directives.flatMap Directive.lexemes ++
        .mark .leftBrace '\x7b' :: (declaration.body.lexemes indent ++
          [.mark .rightBrace '\x7d'])))

end Declaration

theorem TypeKind.isIdentifier_keyword (kind : TypeKind) : isIdentifier kind.keyword = true := by
  cases kind <;> decide

theorem Reads.declaration (width : Nat) {declaration : Declaration Field}
    (sound : declaration.fault? = none) (rest : Text) :
    Reads (declaration.render (List.replicate width ' ') ++ rest)
      (declaration.lexemes (List.replicate width ' ')) rest := by
  obtain ⟨describable, directivesSound, fieldsSound⟩ := declaration.fault?_eq_none_iff.mp sound
  have opening : TokenKind.ofPunctuation? '\x7b' = some .leftBrace := rfl
  have closing : TokenKind.ofPunctuation? '\x7d' = some .rightBrace := rfl
  have text : declaration.render (List.replicate width ' ') ++ rest =
      renderOptionalDescription (List.replicate 0 ' ') declaration.description ++
        (declaration.body.kind.keyword ++ (' ' :: (declaration.name.text ++
          (renderDirectives declaration.directives ++ (' ' :: ('\x7b' :: ('\n' ::
            (declaration.body.render (List.replicate width ' ') ++ ('\x7d' :: rest))))))))) := by
    simp [Declaration.render]
  have braceEnds : ∀ after : Text, EndsName (' ' :: after) := endsName_cons (by decide)
  have directivesEnd : ∀ after : Text,
      EndsName (renderDirectives declaration.directives ++ ' ' :: after) := by
    intro after
    cases declaration.directives with
    | nil => exact braceEnds after
    | cons first more => exact endsName_cons (by decide) _
  rw [text]
  refine (Reads.optionalDescription 0 describable _).append ?_
  refine (Reads.identifier (TypeKind.isIdentifier_keyword _) (braceEnds _)).append
    (.separator rfl ?_)
  refine (Reads.name declaration.name (directivesEnd _)).append ?_
  have spelled := fun directive member =>
    Directive.spelled_of_fault? (directivesSound directive member)
  refine (Reads.directives spelled (braceEnds _)).append (.separator rfl ?_)
  refine (Reads.mark opening _).append (.separator rfl ?_)
  exact (Reads.body width fieldsSound _).append (Reads.mark closing rest)

namespace Document

def lexemes (width : Nat) (document : Document) : List Lexeme :=
  document.flatMap (Declaration.lexemes (List.replicate width ' '))

end Document

theorem Reads.document (width : Nat) {document : Document} (sound : document.fault? = none)
    (rest : Text) : Reads (document.render width ++ rest) (document.lexemes width) rest := by
  rw [Document.fault?_eq_none_iff] at sound
  unfold Document.render Document.lexemes
  induction document with
  | nil => exact .done rest
  | cons first more ih =>
      have firstReads := Reads.declaration width (sound first List.mem_cons_self)
      have later := ih fun declaration member => sound declaration (List.mem_cons_of_mem first member)
      cases more with
      | nil => simpa using firstReads rest
      | cons second more =>
          have text : ['\n', '\n'].intercalate
              ((first :: second :: more).map (Declaration.render (List.replicate width ' '))) ++
                rest = first.render (List.replicate width ' ') ++ ('\n' :: '\n' ::
                  (['\n', '\n'].intercalate
                    ((second :: more).map (Declaration.render (List.replicate width ' '))) ++
                      rest)) := by
            simp
          rw [text, List.flatMap_cons]
          exact (firstReads _).append (.separator rfl (.separator rfl later))

end SdlWorkbench
