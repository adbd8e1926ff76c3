import SdlWorkbench.Proofs.Directive.Arguments
import SdlWorkbench.Proofs.Document.Lexemes
import SdlWorkbench.Proofs.Token.LexicalClass
/-!
Variants of canonical text.

What a canonical text says can be said in other tokens.  A body may lack its braces, the mark of a
required list may stand inside the brackets, an argument may have an equals sign and any token that
stands for its value, and an enum value may have a description and directives, which are dropped.  The
relations here say which lexemes are a variant of a part of a document.
-/

namespace SdlWorkbench

/-- The lexemes of items one behind the other, those of each item in a form of it. -/
inductive InSequence {α : Type} (form : α → List Lexeme → Prop) : List α → List Lexeme → Prop where
  | nil : InSequence form [] []
  | cons {item : α} {items : List α} {front back : List Lexeme} (first : form item front)
      (later : InSequence form items back) : InSequence form (item :: items) (front ++ back)

namespace InSequence

variable {α β : Type} {form : α → List Lexeme → Prop} {items : List α} {lexemes : List Lexeme}

theorem flatMap {write : α → List Lexeme} (written : ∀ item ∈ items, form item (write item)) :
    InSequence form items (items.flatMap write) := by
  induction items with
  | nil => exact .nil
  | cons item more ih =>
      rw [List.flatMap_cons]
      exact .cons (written item List.mem_cons_self)
        (ih fun other member => written other (List.mem_cons_of_mem item member))

theorem map {f : β → α} {items : List β} (sequence : InSequence (form ∘ f) items lexemes) :
    InSequence form (items.map f) lexemes := by
  induction sequence with
  | nil => exact .nil
  | cons first _ ih => exact .cons first ih

theorem mono {other : α → List Lexeme → Prop} (sequence : InSequence form items lexemes)
    (weaker : ∀ item lexemes, form item lexemes → other item lexemes) :
    InSequence other items lexemes := by
  induction sequence with
  | nil => exact .nil
  | cons first _ ih => exact .cons (weaker _ _ first) ih

theorem forall_mem {property : Lexeme → Prop} (sequence : InSequence form items lexemes)
    (each : ∀ item ∈ items, ∀ front, form item front → ∀ lexeme ∈ front, property lexeme) :
    ∀ lexeme ∈ lexemes, property lexeme := by
  induction sequence with
  | nil => exact List.forall_mem_nil _
  | cons first _ ih =>
      refine List.forall_mem_append.mpr ⟨each _ List.mem_cons_self _ first, ih ?_⟩
      exact fun item member => each item (List.mem_cons_of_mem _ member)

end InSequence

/-- A directive with its arguments as a text has them, in any order and with keys bound repeatedly. -/
structure WrittenDirective where
  name : Name
  bindings : List (Text × Text)

def WrittenDirective.directive (written : WrittenDirective) : Directive where
  name := written.name
  arguments := Arguments.ofList written.bindings

def Directive.written (directive : Directive) : WrittenDirective where
  name := directive.name
  bindings := directive.arguments.entries

/-- A name, a colon or an equals sign, and a token that stands for the value. -/
inductive BindingForm : Text × Text → List Lexeme → Prop where
  | binding {key text : Text} {separator value : Lexeme}
      (separates : separator = .mark .colon ':' ∨ separator = .mark .equals '=')
      (denotes : value.argumentValue? = some text) :
      BindingForm (key, text) [.identifier key, separator, value]

inductive DirectiveForm : WrittenDirective → List Lexeme → Prop where
  | bare (name : Name) :
      DirectiveForm ⟨name, []⟩ [.mark .atSign '@', .identifier name.text]
  | withArguments (name : Name) {bindings : List (Text × Text)} {inside : List Lexeme}
      (arguments : InSequence BindingForm bindings inside) :
      DirectiveForm ⟨name, bindings⟩
        (.mark .atSign '@' :: .identifier name.text :: .mark .leftParen '(' ::
          (inside ++ [.mark .rightParen ')']))

/-- A directive in tokens of the lexical classes. -/
structure DirectiveVariant (written : WrittenDirective) (lexemes : List Lexeme) : Prop where
  form : DirectiveForm written lexemes
  inClass : ∀ lexeme ∈ lexemes, lexeme.InClass

theorem Directive.directive_written (directive : Directive) :
    directive.written.directive = directive := by
  have arguments : Arguments.ofList directive.arguments.entries = directive.arguments :=
    directive.arguments.foldl_insert_entries
  rw [WrittenDirective.directive, written, arguments]

theorem Lexeme.string_argumentValue? (text : Text) :
    (string text).argumentValue? = some text := by
  have inner : ((string text).text.drop 1).dropLast = text.escape := by simp [string]
  simp only [argumentValue?, inner, Text.unescape_escape]
  rfl

theorem Directive.form_entryLexemes (entry : Text × Text) :
    BindingForm entry (entryLexemes entry) :=
  .binding (.inl rfl) (Lexeme.string_argumentValue? entry.2)

theorem Directive.form_lexemes (directive : Directive) :
    DirectiveForm directive.written directive.lexemes := by
  obtain ⟨name, entries, ascending⟩ := directive
  cases entries with
  | nil => exact .bare name
  | cons first more =>
      exact .withArguments name (InSequence.flatMap fun entry _ => form_entryLexemes entry)

theorem Directive.form_flatMap_lexemes (directives : List Directive) :
    InSequence DirectiveForm (directives.map written) (directives.flatMap lexemes) :=
  .map (.flatMap fun directive _ => directive.form_lexemes)

namespace Lexeme

theorem fitsQuotes_escape {text : Text} (noFeed : '\n' ∉ text) : FitsQuotes '"' text.escape := by
  induction text with
  | nil => exact .nil
  | cons c rest ih =>
      rw [List.mem_cons, not_or] at noFeed
      rw [Text.escape]
      split
      · exact .escape (Ne.symm noFeed.1) (ih noFeed.2)
      · next plain =>
          rw [not_or] at plain
          exact .char plain.1 plain.2 (Ne.symm noFeed.1) (ih noFeed.2)

theorem string_inClass {text : Text} (noFeed : '\n' ∉ text) : (string text).InClass :=
  .stringLiteral (fitsQuotes_escape noFeed)

def singleQuotes (text : Text) : Lexeme :=
  ⟨.singleQuoted, '\x27' :: text ++ ['\x27']⟩

theorem singleQuotes_inClass {text : Text}
    (plain : ∀ c ∈ text, c ≠ '\x27' ∧ c ≠ '\\' ∧ c ≠ '\n') : (singleQuotes text).InClass := by
  refine .singleQuoted ?_
  induction text with
  | nil => exact .nil
  | cons c rest ih =>
      obtain ⟨⟨notQuote, notEscape, notFeed⟩, restPlain⟩ := List.forall_mem_cons.mp plain
      exact .char notQuote notEscape notFeed (ih restPlain)

theorem singleQuotes_argumentValue? {text : Text} (noBackslash : '\\' ∉ text) :
    (singleQuotes text).argumentValue? = some text := by
  have kept : Text.unescape '\x27' text = text := by
    induction text with
    | nil => rfl
    | cons c rest ih =>
        rw [List.mem_cons, not_or] at noBackslash
        rw [Text.unescape.eq_3 _ _ _ fun _ _ isEscape _ => noBackslash.1 isEscape.symm,
          ih noBackslash.2]
  have inner : ((singleQuotes text).text.drop 1).dropLast = text := by simp [singleQuotes]
  simp only [argumentValue?, inner, kept]
  rfl

theorem bare_argumentValue? {lexeme : Lexeme}
    (bare : lexeme.kind.isName = true ∨ lexeme.kind = .integer ∨ lexeme.kind = .float) :
    lexeme.argumentValue? = some lexeme.text := by
  rw [argumentValue?]
  rcases bare with isName | isInteger | isFloat
  · cases kindEq : lexeme.kind <;> first | rfl | (rw [kindEq] at isName; cases isName)
  · rw [isInteger]
  · rw [isFloat]

end Lexeme

def markLexemes (present : Bool) : List Lexeme :=
  if present then [.mark .bang '!'] else []

/-- The type of a field.  The mark of a required list stands inside the brackets, behind them or in both
places. -/
inductive TypeForm (field : Field) : List Lexeme → Prop where
  | single (notList : field.isList = false) :
      TypeForm field (.identifier field.typeName.text :: markLexemes field.isRequired)
  | list (isList : field.isList = true) {inner outer : Bool}
      (marks : (inner || outer) = field.isRequired) :
      TypeForm field (.mark .leftBracket '[' :: .identifier field.typeName.text ::
        (markLexemes inner ++ .mark .rightBracket ']' :: markLexemes outer))

theorem Field.form_typeLexemes (field : Field) : TypeForm field field.typeLexemes := by
  rw [typeLexemes]
  cases isList : field.isList with
  | false => exact .single isList
  | true => exact .list isList (Bool.false_or field.isRequired)

inductive FieldVariant (indent : Text) (field : Field) : List Lexeme → Prop where
  | written {typed directed : List Lexeme} (type : TypeForm field typed)
      (directives : InSequence DirectiveVariant (field.directives.map Directive.written) directed) :
      FieldVariant indent field (descriptionLexemes indent field.description ++
        .identifier field.name.text :: .mark .colon ':' :: (typed ++ directed))

/-- A value with any directives behind it, and with a description or without one. -/
inductive ValueVariant (value : Name) : List Lexeme → Prop where
  | plain {dropped : List WrittenDirective} {directed : List Lexeme}
      (directives : InSequence DirectiveVariant dropped directed) :
      ValueVariant value (.identifier value.text :: directed)
  | described {description : Lexeme} (describes : description.kind.isDescription = true)
      (inClass : description.InClass) {dropped : List WrittenDirective} {directed : List Lexeme}
      (directives : InSequence DirectiveVariant dropped directed) :
      ValueVariant value (description :: .identifier value.text :: directed)

inductive BodyVariant (indent : Text) : Body Field → List Lexeme → Prop where
  | object {fields : List Field} {lexemes : List Lexeme}
      (each : InSequence (FieldVariant indent) fields lexemes) :
      BodyVariant indent (.object fields) lexemes
  | enumeration {values : List Name} {lexemes : List Lexeme}
      (each : InSequence ValueVariant values lexemes) :
      BodyVariant indent (.enumeration values) lexemes

def Declaration.headLexemes (declaration : Declaration Field) : List Lexeme :=
  descriptionLexemes [] declaration.description ++
    [.identifier declaration.body.kind.keyword, .identifier declaration.name.text]

/-- A declaration with both braces or with none. -/
inductive DeclarationVariant (indent : Text) (declaration : Declaration Field) :
    List Lexeme → Prop where
  | braced {directed members : List Lexeme}
      (directives :
        InSequence DirectiveVariant (declaration.directives.map Directive.written) directed)
      (body : BodyVariant indent declaration.body members) :
      DeclarationVariant indent declaration (declaration.headLexemes ++ (directed ++
        .mark .leftBrace '\x7b' :: (members ++ [.mark .rightBrace '\x7d'])))
  | unbraced {directed members : List Lexeme}
      (directives :
        InSequence DirectiveVariant (declaration.directives.map Directive.written) directed)
      (body : BodyVariant indent declaration.body members) :
      DeclarationVariant indent declaration (declaration.headLexemes ++ (directed ++ members))

def DocumentVariant (width : Nat) : Document → List Lexeme → Prop :=
  InSequence (DeclarationVariant (List.replicate width ' '))

theorem Lexeme.ofDescription_inClass (width : Nat) {text : Text}
    (describable : text.isDescribable = true) :
    (ofDescription (List.replicate width ' ') text).InClass := by
  unfold ofDescription
  split
  · exact .block (Text.fitsBlock_blockInside width describable)
  · next noFeed =>
      split
      · exact .block (Text.fitsBlock_of_isDescribable describable)
      · exact string_inClass noFeed

theorem descriptionLexemes_inClass (width : Nat) {described : Option Text}
    (describable : ∀ text ∈ described, text.isDescribable = true) :
    ∀ lexeme ∈ descriptionLexemes (List.replicate width ' ') described, lexeme.InClass := by
  cases described with
  | none => exact List.forall_mem_nil _
  | some text =>
      exact List.forall_mem_singleton.mpr (Lexeme.ofDescription_inClass width (describable text rfl))

theorem directives_inClass {directives : List WrittenDirective} {lexemes : List Lexeme}
    (variant : InSequence DirectiveVariant directives lexemes) :
    ∀ lexeme ∈ lexemes, lexeme.InClass :=
  variant.forall_mem fun _ _ _ directive => directive.inClass

theorem markLexemes_inClass (present : Bool) : ∀ lexeme ∈ markLexemes present, lexeme.InClass := by
  cases present with
  | false => exact List.forall_mem_nil _
  | true => exact List.forall_mem_singleton.mpr (.mark rfl)

theorem TypeForm.inClass {field : Field} {lexemes : List Lexeme} (form : TypeForm field lexemes) :
    ∀ lexeme ∈ lexemes, lexeme.InClass := by
  have name : (Lexeme.identifier field.typeName.text).InClass :=
    .identifier field.typeName.isIdentifier_text
  cases form with
  | single _ => exact List.forall_mem_cons.mpr ⟨name, markLexemes_inClass _⟩
  | list _ _ =>
      simp only [List.forall_mem_cons, List.forall_mem_append]
      exact ⟨.mark rfl, name, markLexemes_inClass _, .mark rfl, markLexemes_inClass _⟩

theorem FieldVariant.inClass {width : Nat} {owner : Name} {field : Field} {lexemes : List Lexeme}
    (variant : FieldVariant (List.replicate width ' ') field lexemes)
    (sound : field.fault? owner = none) : ∀ lexeme ∈ lexemes, lexeme.InClass := by
  obtain ⟨type, directives⟩ := variant
  have describable := ((field.fault?_eq_none_iff owner).mp sound).1
  simp only [List.forall_mem_append, List.forall_mem_cons]
  exact ⟨descriptionLexemes_inClass width describable, .identifier field.name.isIdentifier_text,
    .mark rfl, type.inClass, directives_inClass directives⟩

theorem ValueVariant.inClass {value : Name} {lexemes : List Lexeme}
    (variant : ValueVariant value lexemes) : ∀ lexeme ∈ lexemes, lexeme.InClass := by
  have name : (Lexeme.identifier value.text).InClass := .identifier value.isIdentifier_text
  cases variant with
  | plain directives => exact List.forall_mem_cons.mpr ⟨name, directives_inClass directives⟩
  | described _ inClass directives =>
      exact List.forall_mem_cons.mpr
        ⟨inClass, List.forall_mem_cons.mpr ⟨name, directives_inClass directives⟩⟩

theorem BodyVariant.inClass {width : Nat} {owner : Name} {body : Body Field} {lexemes : List Lexeme}
    (variant : BodyVariant (List.replicate width ' ') body lexemes)
    (sound : ∀ field ∈ body.fields, field.fault? owner = none) :
    ∀ lexeme ∈ lexemes, lexeme.InClass := by
  cases variant with
  | object each =>
      exact each.forall_mem fun field member _ variant => variant.inClass (sound field member)
  | enumeration each => exact each.forall_mem fun _ _ _ variant => variant.inClass

theorem DeclarationVariant.inClass {width : Nat} {declaration : Declaration Field}
    {lexemes : List Lexeme}
    (variant : DeclarationVariant (List.replicate width ' ') declaration lexemes)
    (sound : declaration.fault? = none) : ∀ lexeme ∈ lexemes, lexeme.InClass := by
  obtain ⟨describable, -, fieldsSound⟩ := declaration.fault?_eq_none_iff.mp sound
  have head : ∀ lexeme ∈ declaration.headLexemes, lexeme.InClass := by
    rw [Declaration.headLexemes, List.forall_mem_append, List.forall_mem_cons,
      List.forall_mem_singleton]
    exact ⟨descriptionLexemes_inClass 0 describable, .identifier (TypeKind.isIdentifier_keyword _),
      .identifier declaration.name.isIdentifier_text⟩
  cases variant with
  | braced directives body =>
      simp only [List.forall_mem_append, List.forall_mem_cons]
      exact ⟨head, directives_inClass directives, .mark rfl, body.inClass fieldsSound, .mark rfl,
        List.forall_mem_nil _⟩
  | unbraced directives body =>
      simp only [List.forall_mem_append]
      exact ⟨head, directives_inClass directives, body.inClass fieldsSound⟩

theorem DocumentVariant.inClass {width : Nat} {document : Document} {lexemes : List Lexeme}
    (variant : DocumentVariant width document lexemes) (sound : document.fault? = none) :
    ∀ lexeme ∈ lexemes, lexeme.InClass :=
  InSequence.forall_mem variant fun declaration member _ variant =>
    variant.inClass (document.fault?_eq_none_iff.mp sound declaration member)

end SdlWorkbench
