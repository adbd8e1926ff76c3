import SdlWorkbench.Proofs.Document.VariantReading
import SdlWorkbench.Proofs.Schema.RoundTrip
import SdlWorkbench.Proofs.Token.Layout
/-!
Variants of a printed schema.

Whatever tokens are chosen for what a schema says, and whatever ignored text stands between them, the
text is read as the printed text is.
-/

namespace SdlWorkbench

namespace Schema

/-- Every variant of a schema, in every layout, reads as the printed schema does, provided that no enum
value and no type of a field is a keyword. -/
theorem ofText_variant {schema : Schema} {width : Nat} {canonical : Text}
    (printed : schema.print width = .ok canonical)
    (avoids : ∀ declaration ∈ schema.document, declaration.AvoidsKeywords) {layout : Layout}
    (sound : layout.Sound) (variant : DocumentVariant width schema.document layout.lexemes)
    (supply supply' : IdSupply) :
    ∃ reread other after after', ofText supply canonical = .ok (reread, after) ∧
      ofText supply' layout.text = .ok (other, after') ∧ other.structurallyEq reread = true := by
  obtain ⟨faultless, -⟩ := (Document.print_eq_ok_iff width schema.document canonical).mp printed
  have tokens := Layout.ofText_text sound (variant.inClass faultless)
  have read : Document.ofText layout.text = .ok (schema.document.mapDescriptions Text.settled) := by
    rw [Document.ofText, tokens]
    exact Document.ofTokens_of_variant avoids variant layout.toLexeme_tokens
  obtain ⟨reread, after, rereadRead, rereadDocument⟩ := ofText_of_print printed supply
  obtain ⟨other, after', otherRead, otherDocument⟩ := ofText_of_document read supply'
  refine ⟨reread, other, after, after', rereadRead, otherRead, ?_⟩
  rw [structurallyEq_iff, otherDocument, rereadDocument]

def variedField : Field where
  name := Name.literal "fragment"
  typeName := Name.literal "Kind"
  isList := true
  isRequired := true
  description := some "of".toList

def variedType : Declaration Field where
  name := Name.literal "union"
  directives :=
    [{ name := Name.literal "scalar"
       arguments := Arguments.ofList [(['k'], ['1']), (['l'], "it".toList)] }]
  body := .object [variedField]

def variedEnum : Declaration Field where
  name := Name.literal "Kind"
  body := .enumeration [Name.literal "One", Name.literal "Two"]

/-- A type and an enum, with keywords for the names of the type, of a field and of a directive. -/
def variedSchema : Schema :=
  ⟨[{ variedType with body := .object [{ variedField with id := Id.ofNat 0 }], id := Id.ofNat 0 },
    { variedEnum with body := .enumeration variedEnum.body.values, id := Id.ofNat 1 }]⟩

def variedText : Text :=
  ("type union @scalar(k:\"1\",l:\"it\") \x7b\n  \"of\"\n  fragment: [Kind]!\n\x7d\n\n" ++
    "enum Kind \x7b\n  One\n  Two\n\x7d").toList

/-- The printed text without its braces, with other tokens for the values and the type, and with a
description and a directive at an enum value. -/
def variedLayout : Layout where
  words :=
    [([], .identifier "type".toList), ([' '], .identifier "union".toList),
      ([' '], .mark .atSign '@'), ([], .identifier "scalar".toList), ([], .mark .leftParen '('),
      ([], .identifier ['k']), ([], .mark .equals '='), ([], ⟨.integer, ['1']⟩),
      ([','], .identifier ['l']), ([], .mark .colon ':'), ([], .singleQuotes "it".toList),
      ([], .mark .rightParen ')'),
      (" \n  ".toList, .string "of".toList), ("\n  ".toList, .identifier "fragment".toList),
      ([], .mark .colon ':'), ([' '], .mark .leftBracket '['), ([], .identifier "Kind".toList),
      ([], .mark .bang '!'), ([], .mark .rightBracket ']'),
      ("\n\n\n".toList, .identifier "enum".toList), ([' '], .identifier "Kind".toList),
      (" \n  ".toList, .block ['a']), ([' '], .identifier "One".toList), ([' '], .mark .atSign '@'),
      ([], .identifier "union".toList), ("\n  ".toList, .identifier "Two".toList)]
  after := ['\n']

def editedText : Text :=
  ("type union @scalar(k=1,l:'it') \n  \"of\"\n  fragment: [Kind!]\n\n\n" ++
    "enum Kind \n  \"\"\"a\"\"\" One @union\n  Two\n").toList

/-- An equals sign and a bare number, a colon and single quotes. -/
theorem variedType_directives :
    InSequence DirectiveVariant (variedType.directives.map Directive.written)
      [.mark .atSign '@', .identifier "scalar".toList, .mark .leftParen '(', .identifier ['k'],
        .mark .equals '=', ⟨.integer, ['1']⟩, .identifier ['l'], .mark .colon ':',
        .singleQuotes "it".toList, .mark .rightParen ')'] := by
  have number : Lexeme.InClass ⟨.integer, ['1']⟩ :=
    .integer (.inl rfl) ⟨List.cons_ne_nil _ _, List.forall_mem_singleton.mpr rfl⟩
  have string : (Lexeme.singleQuotes "it".toList).InClass := Lexeme.singleQuotes_inClass (by simp)
  have first : BindingForm (['k'], ['1'])
      [.identifier ['k'], .mark .equals '=', ⟨.integer, ['1']⟩] :=
    .binding (.inr rfl) (Lexeme.bare_argumentValue? (.inr (.inl rfl)))
  have second : BindingForm (['l'], "it".toList)
      [.identifier ['l'], .mark .colon ':', .singleQuotes "it".toList] :=
    .binding (.inl rfl) (Lexeme.singleQuotes_argumentValue? (by decide))
  have form := DirectiveForm.withArguments (Name.literal "scalar") (.cons first (.cons second .nil))
  refine InSequence.cons (DirectiveVariant.mk form ?_) .nil
  simp only [List.cons_append, List.nil_append, List.forall_mem_cons]
  exact ⟨.mark rfl, .identifier rfl, .mark rfl, .identifier rfl, .mark rfl, number, .identifier rfl,
    .mark rfl, string, .mark rfl, List.forall_mem_nil _⟩

theorem variedField_variant : FieldVariant [' ', ' '] variedField
    [.string "of".toList, .identifier "fragment".toList, .mark .colon ':', .mark .leftBracket '[',
      .identifier "Kind".toList, .mark .bang '!', .mark .rightBracket ']'] :=
  .written (@TypeForm.list variedField rfl true false rfl) .nil

theorem variedEnum_body : BodyVariant [' ', ' '] variedEnum.body
    [.block ['a'], .identifier "One".toList, .mark .atSign '@', .identifier "union".toList,
      .identifier "Two".toList] := by
  have dropped : DirectiveVariant ⟨Name.literal "union", []⟩
      [.mark .atSign '@', .identifier "union".toList] := by
    refine ⟨.bare (Name.literal "union"), ?_⟩
    simp only [List.forall_mem_cons]
    exact ⟨.mark rfl, .identifier rfl, List.forall_mem_nil _⟩
  have described : ValueVariant (Name.literal "One")
      [.block ['a'], .identifier "One".toList, .mark .atSign '@', .identifier "union".toList] :=
    .described rfl (.block ⟨by decide, by decide⟩) (.cons dropped .nil)
  have plain : ValueVariant (Name.literal "Two") [.identifier "Two".toList] := .plain .nil
  exact .enumeration (.cons described (.cons plain .nil))

theorem variedLayout_variant :
    DocumentVariant 2 variedSchema.document variedLayout.lexemes := by
  have type := DeclarationVariant.unbraced variedType_directives
    (.object (.cons variedField_variant .nil))
  have enum : DeclarationVariant [' ', ' '] variedEnum _ :=
    DeclarationVariant.unbraced .nil variedEnum_body
  exact InSequence.cons type (.cons enum .nil)

theorem variedLayout_reads :
    variedSchema.print 2 = .ok variedText ∧ variedLayout.text = editedText ∧
      ∃ reread other after after', ofText ⟨0⟩ variedText = .ok (reread, after) ∧
        ofText ⟨0⟩ variedLayout.text = .ok (other, after') ∧ other.structurallyEq reread = true := by
  have printed : variedSchema.print 2 = .ok variedText := by decide +kernel
  have avoids : ∀ declaration ∈ variedSchema.document, declaration.AvoidsKeywords := by
    refine List.forall_mem_cons.mpr ⟨⟨?_, ?_⟩, List.forall_mem_singleton.mpr ⟨?_, ?_⟩⟩ <;> decide
  have sound : variedLayout.Sound := ⟨by decide, by decide, by decide⟩
  exact ⟨printed, by decide, ofText_variant printed avoids sound variedLayout_variant ⟨0⟩ ⟨0⟩⟩

end Schema

end SdlWorkbench
