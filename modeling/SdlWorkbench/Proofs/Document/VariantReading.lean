import SdlWorkbench.Proofs.Document.Rereading
/-!
Reading variants.

Without braces a body ends at the next header, and headers begin with keywords.  A field is no header,
since a colon comes behind its name, and neither is an enum value or the type of a field that is no
keyword.  So a variant of a document is read as the document, whichever braces it has.
-/

namespace SdlWorkbench

def declarationKeywords : List Text :=
  "type".toList :: "enum".toList :: unsupportedKeywords

theorem Lexeme.isDeclarationKeyword_of_not_mem {text : Text} (avoids : text ∉ declarationKeywords) :
    (identifier text).isDeclarationKeyword = false := by
  simp only [declarationKeywords, List.mem_cons, not_or] at avoids
  obtain ⟨notType, notEnum, supported⟩ := avoids
  have kind : (identifier text).kind = .identifier := by
    simp only [identifier, TokenKind.ofIdentifier, if_neg notType, if_neg notEnum]
  have unsupported : (identifier text).isUnsupportedKeyword = false := by
    simp only [isUnsupportedKeyword, identifier, supported, decide_false, Bool.and_false]
  rw [isDeclarationKeyword, kind, unsupported]
  rfl

/-- No enum value and no type of a field is called like a keyword. -/
structure Declaration.AvoidsKeywords (declaration : Declaration Field) : Prop where
  values : ∀ value ∈ declaration.body.values, value.text ∉ declarationKeywords
  types : ∀ field ∈ declaration.body.fields, field.typeName.text ∉ declarationKeywords

theorem startsDeclaration_of_no_keyword {token : Token} {text : Text}
    (spelled : token.toLexeme = .identifier text) (avoids : text ∉ declarationKeywords)
    (inBraces : Bool) (rest : List Token) : startsDeclaration inBraces (token :: rest) = false := by
  have noKeyword : token.isDeclarationKeyword = false := by
    rw [spelled]
    exact Lexeme.isDeclarationKeyword_of_not_mem avoids
  rw [startsDeclaration, afterDescription_of_isName (Token.isName_of_identifier spelled)]
  cases rest with
  | nil => rfl
  | cons second more => simp only [noKeyword, Bool.false_and]

/-- What stands behind a member: nothing, another member, a header or a closing brace. -/
def FollowsMember (rest : List Token) : Prop :=
  ∀ token, rest.head? = some token →
    token.kind.isName = true ∨ token.kind.isDescription = true ∨ token.kind = .rightBrace

theorem followsMember_of_isName {token : Token} (isName : token.kind.isName = true)
    (rest : List Token) : FollowsMember (token :: rest) := by
  rintro _ ⟨⟩
  exact .inl isName

theorem followsMember_of_isDescription {token : Token} (describes : token.kind.isDescription = true)
    (rest : List Token) : FollowsMember (token :: rest) := by
  rintro _ ⟨⟩
  exact .inr (.inl describes)

theorem followsMember_of_rightBrace {token : Token} (closes : token.kind = .rightBrace)
    (rest : List Token) : FollowsMember (token :: rest) := by
  rintro _ ⟨⟩
  exact .inr (.inr closes)

theorem followsMember_of_endsDeclaration {rest : List Token} (ends : EndsDeclaration rest) :
    FollowsMember rest := by
  intro token first
  rcases ends with rfl | starts
  · cases first
  · cases rest with
    | nil => cases first
    | cons second more =>
        cases first
        by_cases describes : token.kind.isDescription = true
        · exact .inr (.inl describes)
        · rw [startsDeclaration, afterDescription, if_neg describes] at starts
          cases more with
          | nil => cases starts
          | cons third others =>
              simp only [Bool.and_eq_true, Lexeme.isDeclarationKeyword, Lexeme.isUnsupportedKeyword,
                Bool.or_eq_true, decide_eq_true_eq] at starts
              left
              rcases starts.1.1 with (isType | isEnum) | ⟨isIdentifier, -⟩
              · rw [isType]
                rfl
              · rw [isEnum]
                rfl
              · rw [isIdentifier]
                rfl

namespace FollowsMember

variable {rest : List Token}

theorem nextIsNot (follows : FollowsMember rest) {kind : TokenKind} (notName : kind.isName = false)
    (notDescription : kind.isDescription = false) (notBrace : kind ≠ .rightBrace) :
    NextIsNot kind rest := by
  rintro token first rfl
  rcases follows token first with isName | describes | closes
  · rw [notName] at isName
    cases isName
  · rw [notDescription] at describes
    cases describes
  · exact notBrace closes

theorem endsField (follows : FollowsMember rest) : EndsField rest :=
  ⟨follows.nextIsNot rfl rfl (by decide), follows.nextIsNot rfl rfl (by decide),
    follows.nextIsNot rfl rfl (by decide), follows.nextIsNot rfl rfl (by decide)⟩

end FollowsMember

theorem InSequence.directiveForms {written : List WrittenDirective} {lexemes : List Lexeme}
    (sequence : InSequence DirectiveVariant written lexemes) :
    InSequence DirectiveForm written lexemes :=
  sequence.mono fun _ _ variant => variant.form

namespace Production

variable {inBraces : Bool} {width : Nat}

theorem field_variant_head {item : Field} {lexemes : List Lexeme}
    (variant : FieldVariant (List.replicate width ' ') item lexemes) {tokens : List Token}
    (spells : Spells tokens lexemes) :
    ∃ first more, tokens = first :: more ∧ first.kind ≠ .rightBrace ∧
      (∀ rest, FollowsMember (first :: rest)) ∧
      ∀ inBraces rest, startsDeclaration inBraces (first :: (more ++ rest)) = false := by
  obtain ⟨-, -⟩ := variant
  obtain ⟨described, _, rfl, describedSpells, spells⟩ := Spells.append_iff.mp spells
  obtain ⟨name, _, rfl, nameEq, spells⟩ := Spells.cons_iff.mp spells
  obtain ⟨colon, others, rfl, colonEq, -⟩ := Spells.cons_iff.mp spells
  have isName := Token.isName_of_identifier nameEq
  have colonNotName : colon.kind.isName = false := by rw [Token.kind_of_mark colonEq]; rfl
  cases descriptionEq : item.description with
  | none =>
      rw [descriptionEq] at describedSpells
      obtain rfl := Spells.nil_iff.mp describedSpells
      exact ⟨name, colon :: others, rfl, TokenKind.ne_of_isName isName rfl,
        followsMember_of_isName isName,
        fun inBraces rest => startsDeclaration_of_not_isName isName colonNotName inBraces _⟩
  | some text =>
      rw [descriptionEq] at describedSpells
      obtain ⟨token, _, rfl, tokenEq, nothing⟩ := Spells.cons_iff.mp describedSpells
      obtain rfl := Spells.nil_iff.mp nothing
      have describes : token.kind.isDescription = true := by
        rw [tokenEq]
        exact Lexeme.ofDescription_isDescription _ text
      refine ⟨token, name :: colon :: others, rfl, ?_, followsMember_of_isDescription describes, ?_⟩
      · intro closes
        rw [closes] at describes
        cases describes
      · intro inBraces rest
        rw [startsDeclaration, afterDescription, if_pos describes]
        simp only [List.cons_append, colonNotName, Bool.and_false, Bool.false_and]

theorem field_of_variant {item : Field} {lexemes : List Lexeme}
    (variant : FieldVariant (List.replicate width ' ') item lexemes)
    (avoids : item.typeName.text ∉ declarationKeywords) {tokens : List Token}
    (spells : Spells tokens lexemes) {rest : List Token} (follows : FollowsMember rest) :
    field inBraces (tokens ++ rest) = .success (item.mapDescription Text.settled) rest := by
  obtain ⟨type, annotated⟩ := variant
  obtain ⟨described, _, rfl, describedSpells, spells⟩ := Spells.append_iff.mp spells
  obtain ⟨name, _, rfl, nameEq, spells⟩ := Spells.cons_iff.mp spells
  obtain ⟨colon, _, rfl, colonEq, spells⟩ := Spells.cons_iff.mp spells
  obtain ⟨typed, directed, rfl, typedSpells, directedSpells⟩ := Spells.append_iff.mp spells
  simp only [List.append_assoc, List.cons_append]
  exact field_of_forms describedSpells nameEq (Token.kind_of_mark colonEq) type typedSpells
    annotated.directiveForms directedSpells follows.endsField
    fun typeName typeNameEq => startsDeclaration_of_no_keyword typeNameEq avoids inBraces rest

/-- Fields are read one after the other, up to where no more are read. -/
theorem fields_of_variant {items : List Field} {lexemes : List Lexeme}
    (sequence : InSequence (FieldVariant (List.replicate width ' ')) items lexemes)
    (avoids : ∀ item ∈ items, item.typeName.text ∉ declarationKeywords) {tokens : List Token}
    (spells : Spells tokens lexemes) {behind rest : List Token} (follows : FollowsMember behind)
    (stops : fields inBraces behind = .success [] rest) :
    fields inBraces (tokens ++ behind) =
        .success (items.map (Field.mapDescription Text.settled)) rest ∧
      FollowsMember (tokens ++ behind) := by
  induction sequence generalizing tokens with
  | nil =>
      obtain rfl := Spells.nil_iff.mp spells
      exact ⟨stops, follows⟩
  | cons variant _ ih =>
      obtain ⟨itemAvoids, laterAvoid⟩ := List.forall_mem_cons.mp avoids
      obtain ⟨front, back, rfl, frontSpells, backSpells⟩ := Spells.append_iff.mp spells
      obtain ⟨laterRead, laterFollows⟩ := ih laterAvoid backSpells
      have read : field inBraces (front ++ (back ++ behind)) = _ :=
        field_of_variant variant itemAvoids frontSpells laterFollows
      obtain ⟨first, more, rfl, notBrace, followsFirst, noHeader⟩ :=
        field_variant_head variant frontSpells
      rw [List.cons_append] at read
      rw [List.append_assoc, List.cons_append]
      refine ⟨?_, followsFirst _⟩
      rw [fields_cons, if_neg notBrace, noHeader, if_neg Bool.false_ne_true, read]
      dsimp only
      rw [laterRead]
      rfl

theorem values_cons_value {item : Name} {name : Token} (nameEq : name.toLexeme = .identifier item.text)
    (avoids : item.text ∉ declarationKeywords) {dropped : List WrittenDirective}
    {lexemes : List Lexeme} (annotated : InSequence DirectiveForm dropped lexemes)
    {directed : List Token} (spells : Spells directed lexemes) {rest : List Token}
    (follows : FollowsMember rest) :
    values inBraces (name :: (directed ++ rest)) = (values inBraces rest).map (item :: ·) := by
  have isName := Token.isName_of_identifier nameEq
  rw [values_cons, if_neg (TokenKind.ne_of_isName isName rfl),
    startsDeclaration_of_no_keyword nameEq avoids, if_neg Bool.false_ne_true,
    TokenKind.not_isDescription_of_isName isName, if_neg Bool.false_ne_true,
    name?_of_identifier nameEq,
    directives_of_sequence annotated spells (follows.nextIsNot rfl rfl (by decide))
      (follows.nextIsNot rfl rfl (by decide))]

theorem values_cons_description {item : Name} {description name : Token}
    (describes : description.kind.isDescription = true)
    (nameEq : name.toLexeme = .identifier item.text) (avoids : item.text ∉ declarationKeywords)
    (rest : List Token) :
    values inBraces (description :: name :: rest) = values inBraces (name :: rest) := by
  have notBrace : description.kind ≠ .rightBrace := by
    intro closes
    rw [closes] at describes
    cases describes
  have noHeader : startsDeclaration inBraces (description :: name :: rest) = false := by
    have later := startsDeclaration_of_no_keyword nameEq avoids inBraces rest
    rw [startsDeclaration, afterDescription_of_isName (Token.isName_of_identifier nameEq)] at later
    rw [startsDeclaration, afterDescription, if_pos describes, later]
  rw [values_cons, if_neg notBrace, noHeader, if_neg Bool.false_ne_true, if_pos describes]

theorem values_of_variant {items : List Name} {lexemes : List Lexeme}
    (sequence : InSequence ValueVariant items lexemes)
    (avoids : ∀ item ∈ items, item.text ∉ declarationKeywords) {tokens : List Token}
    (spells : Spells tokens lexemes) {behind rest : List Token} (follows : FollowsMember behind)
    (stops : values inBraces behind = .success [] rest) :
    values inBraces (tokens ++ behind) = .success items rest ∧ FollowsMember (tokens ++ behind) := by
  induction sequence generalizing tokens with
  | nil =>
      obtain rfl := Spells.nil_iff.mp spells
      exact ⟨stops, follows⟩
  | cons variant _ ih =>
      obtain ⟨itemAvoids, laterAvoid⟩ := List.forall_mem_cons.mp avoids
      obtain ⟨front, back, rfl, frontSpells, backSpells⟩ := Spells.append_iff.mp spells
      obtain ⟨laterRead, laterFollows⟩ := ih laterAvoid backSpells
      rw [List.append_assoc]
      cases variant with
      | plain annotated =>
          obtain ⟨name, directed, rfl, nameEq, directedSpells⟩ := Spells.cons_iff.mp frontSpells
          refine ⟨?_, followsMember_of_isName (Token.isName_of_identifier nameEq) _⟩
          rw [List.cons_append, values_cons_value nameEq itemAvoids annotated.directiveForms
            directedSpells laterFollows, laterRead]
          rfl
      | described describes _ annotated =>
          obtain ⟨description, _, rfl, descriptionEq, frontSpells⟩ := Spells.cons_iff.mp frontSpells
          obtain ⟨name, directed, rfl, nameEq, directedSpells⟩ := Spells.cons_iff.mp frontSpells
          have tokenDescribes : description.kind.isDescription = true := by
            rw [descriptionEq]
            exact describes
          refine ⟨?_, followsMember_of_isDescription tokenDescribes _⟩
          rw [List.cons_append, List.cons_append,
            values_cons_description tokenDescribes nameEq itemAvoids,
            values_cons_value nameEq itemAvoids annotated.directiveForms directedSpells laterFollows,
            laterRead]
          rfl

theorem body_of_variant {declaration : Declaration Field} (avoids : declaration.AvoidsKeywords)
    {lexemes : List Lexeme}
    (variant : BodyVariant (List.replicate width ' ') declaration.body lexemes) {tokens : List Token}
    (spells : Spells tokens lexemes) {behind rest : List Token} (follows : FollowsMember behind)
    (noFields : fields inBraces behind = .success [] rest)
    (noValues : values inBraces behind = .success [] rest) :
    body declaration.body.kind inBraces (tokens ++ behind) =
        .success (declaration.body.map (Field.mapDescription Text.settled)) rest ∧
      FollowsMember (tokens ++ behind) := by
  obtain ⟨name, description, directives, members⟩ := declaration
  cases variant with
  | object each =>
      obtain ⟨read, ends⟩ := fields_of_variant each avoids.types spells follows noFields
      refine ⟨?_, ends⟩
      change (fields inBraces (tokens ++ behind)).map Body.object = _
      rw [read]
      rfl
  | enumeration each =>
      obtain ⟨read, ends⟩ := values_of_variant each avoids.values spells follows noValues
      refine ⟨?_, ends⟩
      change (values inBraces (tokens ++ behind)).map Body.enumeration = _
      rw [read]
      rfl

theorem spells_head {item : Declaration Field} {tokens : List Token}
    (spells : Spells tokens item.headLexemes) :
    ∃ described keyword name, tokens = described ++ [keyword, name] ∧
      Spells described (descriptionLexemes [] item.description) ∧
      keyword.toLexeme = .identifier item.body.kind.keyword ∧
      name.toLexeme = .identifier item.name.text := by
  obtain ⟨described, _, rfl, describedSpells, spells⟩ := Spells.append_iff.mp spells
  obtain ⟨keyword, _, rfl, keywordEq, spells⟩ := Spells.cons_iff.mp spells
  obtain ⟨name, _, rfl, nameEq, nothing⟩ := Spells.cons_iff.mp spells
  obtain rfl := Spells.nil_iff.mp nothing
  exact ⟨described, keyword, name, rfl, describedSpells, keywordEq, nameEq⟩

section Declarations

variable {item : Declaration Field} {directed members : List Lexeme} {tokens : List Token}

/-- With braces the closing brace ends the members. -/
theorem declaration_of_braced (avoids : item.AvoidsKeywords)
    (annotated : InSequence DirectiveForm (item.directives.map Directive.written) directed)
    (variant : BodyVariant (List.replicate width ' ') item.body members)
    (spells : Spells tokens (item.headLexemes ++ (directed ++
      .mark .leftBrace '\x7b' :: (members ++ [.mark .rightBrace '\x7d'])))) :
    ReadsAs tokens (item.mapDescriptions Text.settled) := by
  obtain ⟨_, _, rfl, headSpells, tailSpells⟩ := Spells.append_iff.mp spells
  obtain ⟨described, keyword, name, rfl, describedSpells, keywordEq, nameEq⟩ :=
    spells_head headSpells
  obtain ⟨directed, _, rfl, directedSpells, tailSpells⟩ := Spells.append_iff.mp tailSpells
  obtain ⟨opening, _, rfl, openingEq, tailSpells⟩ := Spells.cons_iff.mp tailSpells
  obtain ⟨inside, _, rfl, membersSpells, tailSpells⟩ := Spells.append_iff.mp tailSpells
  obtain ⟨close, _, rfl, closeEq, nothing⟩ := Spells.cons_iff.mp tailSpells
  obtain rfl := Spells.nil_iff.mp nothing
  have opens := Token.kind_of_mark openingEq
  have closes := Token.kind_of_mark closeEq
  have apart : ∀ {kind : TokenKind}, kind ≠ .leftBrace → ∀ rest,
      NextIsNot kind (opening :: (inside ++ close :: rest)) :=
    fun different rest => nextIsNot_cons (by rw [opens]; exact Ne.symm different) _
  constructor
  · intro rest _
    simp only [List.append_assoc, List.cons_append, List.nil_append]
    exact startsDeclaration_of_forms describedSpells keywordEq nameEq annotated directedSpells
      (apart (by decide) rest)
  · intro rest ends
    have membersRead := (body_of_variant avoids variant membersSpells
      (followsMember_of_rightBrace closes rest)
      ((fields_rightBrace closes true rest).trans (fields_of_endsDeclaration ends))
      ((values_rightBrace closes true rest).trans (values_of_endsDeclaration ends))).1
    simp only [List.append_assoc, List.cons_append, List.nil_append]
    exact declaration_of_forms describedSpells keywordEq nameEq annotated directedSpells
      (apart (by decide) rest) (apart (by decide) rest) (optional_some opens _) membersRead

/-- Without braces the members end where the text does or at the next header. -/
theorem declaration_of_unbraced (avoids : item.AvoidsKeywords)
    (annotated : InSequence DirectiveForm (item.directives.map Directive.written) directed)
    (variant : BodyVariant (List.replicate width ' ') item.body members)
    (spells : Spells tokens (item.headLexemes ++ (directed ++ members))) :
    ReadsAs tokens (item.mapDescriptions Text.settled) := by
  obtain ⟨_, _, rfl, headSpells, tailSpells⟩ := Spells.append_iff.mp spells
  obtain ⟨described, keyword, name, rfl, describedSpells, keywordEq, nameEq⟩ :=
    spells_head headSpells
  obtain ⟨directed, inside, rfl, directedSpells, membersSpells⟩ := Spells.append_iff.mp tailSpells
  have read : ∀ rest, EndsDeclaration rest →
      body item.body.kind false (inside ++ rest) =
          .success (item.body.map (Field.mapDescription Text.settled)) rest ∧
        FollowsMember (inside ++ rest) := fun rest ends =>
    body_of_variant avoids variant membersSpells (followsMember_of_endsDeclaration ends)
      (fields_of_endsDeclaration ends) (values_of_endsDeclaration ends)
  constructor
  · intro rest ends
    simp only [List.append_assoc, List.cons_append, List.nil_append]
    exact startsDeclaration_of_forms describedSpells keywordEq nameEq annotated directedSpells
      ((read rest ends).2.nextIsNot rfl rfl (by decide))
  · intro rest ends
    obtain ⟨membersRead, follows⟩ := read rest ends
    simp only [List.append_assoc, List.cons_append, List.nil_append]
    exact declaration_of_forms describedSpells keywordEq nameEq annotated directedSpells
      (follows.nextIsNot rfl rfl (by decide)) (follows.nextIsNot rfl rfl (by decide))
      (optional_none (follows.nextIsNot rfl rfl (by decide))) membersRead

/-- A variant of a declaration is read as the declaration, its descriptions settled. -/
theorem declaration_of_variant (avoids : item.AvoidsKeywords) {lexemes : List Lexeme}
    (variant : DeclarationVariant (List.replicate width ' ') item lexemes)
    (spells : Spells tokens lexemes) : ReadsAs tokens (item.mapDescriptions Text.settled) := by
  cases variant with
  | braced annotated members =>
      exact declaration_of_braced avoids annotated.directiveForms members spells
  | unbraced annotated members =>
      exact declaration_of_unbraced avoids annotated.directiveForms members spells

end Declarations

end Production

namespace Document

theorem ofTokens_of_variant {width : Nat} {document : Document}
    (avoids : ∀ declaration ∈ document, declaration.AvoidsKeywords) {lexemes : List Lexeme}
    (variant : DocumentVariant width document lexemes) {tokens : List Token}
    (spells : Spells tokens lexemes) :
    ofTokens tokens = .ok (document.mapDescriptions Text.settled) := by
  have read := (attempts_of_sequence variant (fun item member _ variant _ spells =>
    Production.declaration_of_variant (avoids item member) variant spells) spells).1
  rw [ofTokens, read]
  exact collect_ok _

end Document

end SdlWorkbench
