import SdlWorkbench.Proofs.Document.Productions
/-!
Members on the lexemes of canonical text.

Inside braces a keyword is the name of a member unless a name and a brace or a directive follow it.
`FollowsType` and `FollowsField` say what the tokens after a type and after a field must not start
with.
-/

namespace SdlWorkbench

theorem Token.isName_of_identifier {token : Token} {text : Text}
    (spelled : token.toLexeme = .identifier text) : token.kind.isName = true := by
  rw [spelled]
  exact Lexeme.identifier_isName text

theorem Lexeme.isName_of_name? {lexeme : Lexeme} {name : Name}
    (named : lexeme.name? = some name) : lexeme.kind.isName = true := by
  by_contra notName
  rw [Lexeme.name?, if_neg notName] at named
  cases named

theorem TokenKind.ne_of_isName {kind other : TokenKind} (isName : kind.isName = true)
    (notName : other.isName = false) : kind ≠ other := by
  rintro rfl
  rw [notName] at isName
  cases isName

theorem TokenKind.not_isDescription_of_isName {kind : TokenKind} (isName : kind.isName = true) :
    kind.isDescription = false := by
  cases kind <;> first | rfl | cases isName

theorem Lexeme.isSome_description? (lexeme : Lexeme) :
    lexeme.description?.isSome = lexeme.kind.isDescription := by
  rw [Lexeme.description?]
  cases lexeme.kind <;> rfl

theorem afterDescription_of_isName {token : Token} (isName : token.kind.isName = true)
    (rest : List Token) : afterDescription (token :: rest) = token :: rest := by
  rw [afterDescription, TokenKind.not_isDescription_of_isName isName]
  rfl

/-- No header starts with a name that no other name follows. -/
theorem startsDeclaration_of_not_isName {first second : Token} (isName : first.kind.isName = true)
    (notName : second.kind.isName = false) (inBraces : Bool) (rest : List Token) :
    startsDeclaration inBraces (first :: second :: rest) = false := by
  rw [startsDeclaration, afterDescription_of_isName isName]
  simp only [notName, Bool.and_false, Bool.false_and]

/-- No header goes on with a token that is neither a brace nor a directive inside braces. -/
theorem startsDeclaration_of_not_endsHeader {first second third : Token}
    (isName : first.kind.isName = true) (notBrace : third.kind ≠ .leftBrace)
    (notMark : third.kind ≠ .atSign) (rest : List Token) :
    startsDeclaration true (first :: second :: third :: rest) = false := by
  rw [startsDeclaration, afterDescription_of_isName isName]
  simp only [endsHeader, notBrace, notMark, decide_false, Bool.or_self, Bool.and_false, if_true]

theorem ne_rightBrace_of_startsDeclaration {inBraces : Bool} {first : Token} {rest : List Token}
    (starts : startsDeclaration inBraces (first :: rest) = true) : first.kind ≠ .rightBrace := by
  intro closes
  have notDescription : first.kind.isDescription = false := by rw [closes]; rfl
  have notKeyword : first.isDeclarationKeyword = false := by
    simp [Lexeme.isDeclarationKeyword, Lexeme.isUnsupportedKeyword, closes]
  rw [startsDeclaration, afterDescription, notDescription] at starts
  cases rest with
  | nil => cases starts
  | cons second more =>
      simp only [Bool.false_eq_true, if_false, notKeyword, Bool.false_and] at starts

/-- The text ends after a declaration, or the header of the next one follows. -/
def EndsDeclaration (rest : List Token) : Prop :=
  rest = [] ∨ startsDeclaration false rest = true

structure FollowsType (rest : List Token) : Prop where
  noColon : NextIsNot .colon rest
  noBang : NextIsNot .bang rest
  noHeader : ∀ token : Token, token.kind.isName = true →
    startsDeclaration true (token :: rest) = false

structure FollowsField (rest : List Token) : Prop extends FollowsType rest where
  noMark : NextIsNot .atSign rest
  noParen : NextIsNot .leftParen rest

/-- What cannot belong to a field that stands in front of it. -/
structure EndsField (rest : List Token) : Prop where
  noColon : NextIsNot .colon rest
  noBang : NextIsNot .bang rest
  noMark : NextIsNot .atSign rest
  noParen : NextIsNot .leftParen rest

theorem FollowsField.endsField {rest : List Token} (follows : FollowsField rest) : EndsField rest :=
  ⟨follows.noColon, follows.noBang, follows.noMark, follows.noParen⟩

theorem followsType_of_not_isName {first : Token} (notName : first.kind.isName = false)
    (notColon : first.kind ≠ .colon) (notBang : first.kind ≠ .bang) (rest : List Token) :
    FollowsType (first :: rest) where
  noColon := nextIsNot_cons notColon rest
  noBang := nextIsNot_cons notBang rest
  noHeader := fun _ isName => startsDeclaration_of_not_isName isName notName true rest

theorem followsField_of_kind {first : Token} {kind : TokenKind} (isKind : first.kind = kind)
    (apart : kind.isName = false ∧ kind ≠ .colon ∧ kind ≠ .bang ∧ kind ≠ .atSign ∧
      kind ≠ .leftParen) (rest : List Token) : FollowsField (first :: rest) := by
  subst isKind
  obtain ⟨notName, notColon, notBang, notMark, notParen⟩ := apart
  exact ⟨followsType_of_not_isName notName notColon notBang rest, nextIsNot_cons notMark rest,
    nextIsNot_cons notParen rest⟩

theorem followsField_of_isDescription {token : Token}
    (describes : token.kind.isDescription = true) (rest : List Token) :
    FollowsField (token :: rest) := by
  have kinds : token.kind = .stringLiteral ∨ token.kind = .blockString := by
    revert describes
    cases token.kind <;> decide
  rcases kinds with isString | isBlock
  · exact followsField_of_kind isString (by decide) rest
  · exact followsField_of_kind isBlock (by decide) rest

theorem followsField_of_isName {name colon : Token} (isName : name.kind.isName = true)
    (isColon : colon.kind = .colon) (rest : List Token) :
    FollowsField (name :: colon :: rest) := by
  have different : ∀ kind : TokenKind, kind.isName = false → NextIsNot kind (name :: colon :: rest) :=
    fun kind notName => nextIsNot_cons (TokenKind.ne_of_isName isName notName) _
  refine ⟨⟨different _ rfl, different _ rfl, ?_⟩, different _ rfl, different _ rfl⟩
  intro token tokenIsName
  exact startsDeclaration_of_not_endsHeader tokenIsName (by rw [isColon]; decide)
    (by rw [isColon]; decide) rest

namespace Production

theorem description_success {token : Token} {text : Text} (describes : token.description? = some text)
    (rest : List Token) : description (token :: rest) = .success (some text) rest := by
  rw [description, describes]

theorem description_none {token : Token} (isName : token.kind.isName = true) (rest : List Token) :
    description (token :: rest) = .success none (token :: rest) := by
  have undescribed : token.description? = none := by
    rw [← Option.not_isSome_iff_eq_none, Lexeme.isSome_description?,
      TokenKind.not_isDescription_of_isName isName]
    exact Bool.false_ne_true
  rw [description, undescribed]

theorem optionalDescription_success (width : Nat) {described : Option Text} {tokens : List Token}
    (spells : Spells tokens (descriptionLexemes (List.replicate width ' ') described))
    {name : Token} (isName : name.kind.isName = true) (rest : List Token) :
    description (tokens ++ name :: rest) = .success (described.map Text.settled) (name :: rest) := by
  cases described with
  | none =>
      obtain rfl := Spells.nil_iff.mp spells
      exact description_none isName rest
  | some text =>
      obtain ⟨token, _, rfl, tokenEq, spells⟩ := Spells.cons_iff.mp spells
      obtain rfl := Spells.nil_iff.mp spells
      apply description_success
      rw [tokenEq, Lexeme.ofDescription_description?]

theorem typeReference_success {inBraces : Bool} {field previous first : Token} {name : Name}
    (named : first.name? = some name) {rest : List Token} (noColon : NextIsNot .colon rest)
    (noHeader : startsDeclaration inBraces (first :: rest) = false) :
    typeReference inBraces field previous (first :: rest) = .success name rest := by
  have isName : first.kind.isName = true := Lexeme.isName_of_name? named
  have starts : startsTypeReference inBraces (first :: rest) = true := by
    cases rest with
    | nil =>
        simp only [startsTypeReference, isName, noHeader, Bool.not_false, Bool.and_self]
    | cons second more =>
        have notColon := noColon second rfl
        simp only [startsTypeReference, isName, noHeader, notColon, ne_eq, not_false_eq_true,
          decide_true, Bool.not_false, Bool.and_self]
  rw [typeReference, if_pos starts, name_success named]

private theorem bang_success {present : Bool} {tokens : List Token}
    (spells : Spells tokens (markLexemes present)) {rest : List Token} (noBang : NextIsNot .bang rest) :
    ∃ read, optional .bang (tokens ++ rest) = .success read rest ∧ read.isSome = present := by
  cases present with
  | true =>
      obtain ⟨bang, _, rfl, bangEq, nothing⟩ := Spells.cons_iff.mp spells
      obtain rfl := Spells.nil_iff.mp nothing
      exact ⟨some bang, optional_some (Token.kind_of_mark bangEq) rest, rfl⟩
  | false =>
      obtain rfl := Spells.nil_iff.mp spells
      exact ⟨none, optional_none noBang, rfl⟩

/-- What may follow the name of a type may follow it behind a mark as well. -/
private theorem behind_bang {inBraces present : Bool} {name : Token} (isName : name.kind.isName = true)
    {tokens : List Token} (spells : Spells tokens (markLexemes present)) {rest : List Token}
    (noColon : NextIsNot .colon rest) (noHeader : startsDeclaration inBraces (name :: rest) = false) :
    NextIsNot .colon (tokens ++ rest) ∧
      startsDeclaration inBraces (name :: (tokens ++ rest)) = false := by
  cases present with
  | true =>
      obtain ⟨bang, _, rfl, bangEq, nothing⟩ := Spells.cons_iff.mp spells
      obtain rfl := Spells.nil_iff.mp nothing
      have bangKind := Token.kind_of_mark bangEq
      exact ⟨nextIsNot_cons (by rw [bangKind]; decide) rest,
        startsDeclaration_of_not_isName isName (by rw [bangKind]; rfl) inBraces rest⟩
  | false =>
      obtain rfl := Spells.nil_iff.mp spells
      exact ⟨noColon, noHeader⟩

/-- The tokens of any form of a type are read as the type, unless its name begins a header. -/
theorem fieldType_success {inBraces : Bool} {item : Field} {lexemes : List Lexeme}
    (form : TypeForm item lexemes) (fieldToken colon : Token) {tokens : List Token}
    (spells : Spells tokens lexemes) {rest : List Token} (noColon : NextIsNot .colon rest)
    (noBang : NextIsNot .bang rest)
    (noHeader : ∀ name : Token, name.toLexeme = .identifier item.typeName.text →
      startsDeclaration inBraces (name :: rest) = false) :
    fieldType inBraces fieldToken colon (tokens ++ rest) =
      .success (item.typeName, item.isList, item.isRequired) rest := by
  cases form with
  | single notList =>
      obtain ⟨name, marks, rfl, nameEq, marksSpells⟩ := Spells.cons_iff.mp spells
      have isName := Token.isName_of_identifier nameEq
      obtain ⟨read, readMark, required⟩ := bang_success marksSpells noBang
      obtain ⟨noColon, noHeader⟩ := behind_bang isName marksSpells noColon (noHeader name nameEq)
      have noBracket : NextIsNot .leftBracket (name :: (marks ++ rest)) :=
        nextIsNot_cons (TokenKind.ne_of_isName isName rfl) _
      rw [List.cons_append, fieldType, bind_success (optional_none noBracket)]
      dsimp only
      rw [bind_success (typeReference_success (name?_of_identifier nameEq) noColon noHeader),
        bind_success readMark, pure_success, required, notList]
  | list isList marks =>
      obtain ⟨opening, _, rfl, openingEq, spells⟩ := Spells.cons_iff.mp spells
      obtain ⟨name, _, rfl, nameEq, spells⟩ := Spells.cons_iff.mp spells
      obtain ⟨inner, _, rfl, innerSpells, spells⟩ := Spells.append_iff.mp spells
      obtain ⟨closing, outer, rfl, closingEq, outerSpells⟩ := Spells.cons_iff.mp spells
      have isName := Token.isName_of_identifier nameEq
      have closingKind := Token.kind_of_mark closingEq
      have closingNotColon : NextIsNot .colon (closing :: (outer ++ rest)) :=
        nextIsNot_cons (by rw [closingKind]; decide) _
      have closingNotBang : NextIsNot .bang (closing :: (outer ++ rest)) :=
        nextIsNot_cons (by rw [closingKind]; decide) _
      obtain ⟨first, readInner, innerRequired⟩ := bang_success innerSpells closingNotBang
      obtain ⟨second, readOuter, outerRequired⟩ := bang_success outerSpells noBang
      obtain ⟨noColon, noHeader⟩ := behind_bang isName innerSpells closingNotColon
        (startsDeclaration_of_not_isName isName (by rw [closingKind]; rfl) inBraces _)
      simp only [List.cons_append, List.append_assoc]
      rw [fieldType, bind_success (optional_some (Token.kind_of_mark openingEq) _)]
      dsimp only
      rw [bind_success (typeReference_success (name?_of_identifier nameEq) noColon noHeader),
        bind_success readInner, bind_success (token_success closingKind _ _),
        bind_success readOuter, pure_success, innerRequired, outerRequired, marks, isList]

/-- The tokens of a field, with its type and its directives in any form, are read as the field, its
description settled. -/
theorem field_of_forms {inBraces : Bool} {width : Nat} {item : Field}
    {described typed directed : List Token} {name colon : Token}
    {typedLexemes directedLexemes : List Lexeme}
    (describedSpells : Spells described (descriptionLexemes (List.replicate width ' ') item.description))
    (nameEq : name.toLexeme = .identifier item.name.text) (isColon : colon.kind = .colon)
    (type : TypeForm item typedLexemes) (typedSpells : Spells typed typedLexemes)
    (annotated : InSequence DirectiveForm (item.directives.map Directive.written) directedLexemes)
    (directedSpells : Spells directed directedLexemes) {rest : List Token} (ends : EndsField rest)
    (noHeader : ∀ name : Token, name.toLexeme = .identifier item.typeName.text →
      startsDeclaration inBraces (name :: rest) = false) :
    field inBraces (described ++ name :: colon :: (typed ++ (directed ++ rest))) =
      .success (item.mapDescription Text.settled) rest := by
  have isName := Token.isName_of_identifier nameEq
  have typeRead : fieldType inBraces name colon (typed ++ (directed ++ rest)) =
      .success (item.typeName, item.isList, item.isRequired) (directed ++ rest) := by
    rcases eq_nil_or_mark annotated directedSpells with rfl | ⟨mark, others, rfl, markKind⟩
    · exact fieldType_success type name colon typedSpells ends.noColon ends.noBang noHeader
    · refine fieldType_success type name colon typedSpells ?_ ?_ fun typeName typeNameEq => ?_
      · exact nextIsNot_cons (by rw [markKind]; decide) _
      · exact nextIsNot_cons (by rw [markKind]; decide) _
      · exact startsDeclaration_of_not_isName (Token.isName_of_identifier typeNameEq)
          (by rw [markKind]; rfl) inBraces _
  rw [field, bind_success (optionalDescription_success width describedSpells isName _),
    describedField, bind_success (nameToken_success (name?_of_identifier nameEq) _ _)]
  dsimp only
  rw [bind_success (token_success isColon _ _), bind_success typeRead]
  dsimp only
  rw [bind_success (directives_success annotated directedSpells ends.noMark ends.noParen)]
  rfl

theorem spells_field {width : Nat} {item : Field} {tokens : List Token}
    (spells : Spells tokens (item.lexemes (List.replicate width ' '))) :
    ∃ described name colon typed directed,
      tokens = described ++ name :: colon :: (typed ++ directed) ∧
      Spells described (descriptionLexemes (List.replicate width ' ') item.description) ∧
      name.toLexeme = .identifier item.name.text ∧ colon.kind = .colon ∧
      Spells typed item.typeLexemes ∧ Spells directed (item.directives.flatMap Directive.lexemes) := by
  obtain ⟨described, _, rfl, describedSpells, spells⟩ := Spells.append_iff.mp spells
  obtain ⟨name, _, rfl, nameEq, spells⟩ := Spells.cons_iff.mp spells
  obtain ⟨colon, _, rfl, colonEq, spells⟩ := Spells.cons_iff.mp spells
  obtain ⟨typed, directed, rfl, typedSpells, directedSpells⟩ := Spells.append_iff.mp spells
  exact ⟨described, name, colon, typed, directed, rfl, describedSpells, nameEq,
    Token.kind_of_mark colonEq, typedSpells, directedSpells⟩

theorem field_success {width : Nat} {item : Field} {tokens : List Token}
    (spells : Spells tokens (item.lexemes (List.replicate width ' '))) {rest : List Token}
    (follows : FollowsField rest) :
    field true (tokens ++ rest) = .success (item.mapDescription Text.settled) rest := by
  obtain ⟨described, name, colon, typed, directed, rfl, describedSpells, nameEq, isColon,
    typedSpells, directedSpells⟩ := spells_field spells
  simp only [List.append_assoc, List.cons_append]
  exact field_of_forms describedSpells nameEq isColon item.form_typeLexemes typedSpells
    (Directive.form_flatMap_lexemes item.directives) directedSpells follows.endsField
    fun typeName typeNameEq => follows.noHeader typeName (Token.isName_of_identifier typeNameEq)

theorem fields_rightBrace {close : Token} (closes : close.kind = .rightBrace)
    (inBraces : Bool) (rest : List Token) :
    fields inBraces (close :: rest) = fields false rest := by
  rw [fields, if_pos closes]

theorem values_rightBrace {close : Token} (closes : close.kind = .rightBrace)
    (inBraces : Bool) (rest : List Token) :
    values inBraces (close :: rest) = values false rest := by
  rw [values, if_pos closes]

theorem fields_of_endsDeclaration {rest : List Token} (ends : EndsDeclaration rest) :
    fields false rest = .success [] rest := by
  rcases ends with rfl | starts
  · rw [fields]
  · cases rest with
    | nil => cases starts
    | cons first more =>
        rw [fields, if_neg (ne_rightBrace_of_startsDeclaration starts), if_pos starts]

theorem values_of_endsDeclaration {rest : List Token} (ends : EndsDeclaration rest) :
    values false rest = .success [] rest := by
  rcases ends with rfl | starts
  · rw [values]
  · cases rest with
    | nil => cases starts
    | cons first more =>
        rw [values, if_neg (ne_rightBrace_of_startsDeclaration starts), if_pos starts]

theorem field_head {width : Nat} {item : Field} {tokens : List Token}
    (spells : Spells tokens (item.lexemes (List.replicate width ' '))) :
    ∃ first more, tokens = first :: more ∧ first.kind ≠ .rightBrace ∧
      ∀ rest, startsDeclaration true (first :: (more ++ rest)) = false ∧
        FollowsField (first :: (more ++ rest)) := by
  obtain ⟨described, name, colon, typed, directed, rfl, describedSpells, nameEq, isColon,
    -, -⟩ := spells_field spells
  have isName := Token.isName_of_identifier nameEq
  have colonNotName : colon.kind.isName = false := by rw [isColon]; rfl
  cases descriptionEq : item.description with
  | none =>
      rw [descriptionEq] at describedSpells
      obtain rfl := Spells.nil_iff.mp describedSpells
      refine ⟨name, colon :: (typed ++ directed), rfl, ?_, fun rest => ⟨?_, ?_⟩⟩
      · exact TokenKind.ne_of_isName isName rfl
      · exact startsDeclaration_of_not_isName isName colonNotName true _
      · exact followsField_of_isName isName isColon _
  | some text =>
      rw [descriptionEq] at describedSpells
      obtain ⟨token, _, rfl, tokenEq, nothing⟩ := Spells.cons_iff.mp describedSpells
      obtain rfl := Spells.nil_iff.mp nothing
      have describes : token.kind.isDescription = true := by
        rw [tokenEq]
        exact Lexeme.ofDescription_isDescription _ text
      refine ⟨token, name :: colon :: (typed ++ directed), rfl, ?_, fun rest => ⟨?_, ?_⟩⟩
      · intro closes
        rw [closes] at describes
        cases describes
      · rw [startsDeclaration, afterDescription, if_pos describes]
        simp only [List.cons_append, colonNotName, Bool.and_false, Bool.false_and]
      · exact followsField_of_isDescription describes _

theorem fields_success {width : Nat} {items : List Field} {tokens : List Token}
    (spells : Spells tokens (items.flatMap (Field.lexemes (List.replicate width ' '))))
    {close : Token} (closes : close.kind = .rightBrace) {rest : List Token}
    (ends : EndsDeclaration rest) :
    fields true (tokens ++ close :: rest) =
      .success (items.map (Field.mapDescription Text.settled)) rest := by
  induction items generalizing tokens with
  | nil =>
      obtain rfl := Spells.nil_iff.mp spells
      rw [List.nil_append, fields_rightBrace closes]
      exact fields_of_endsDeclaration ends
  | cons item more ih =>
      rw [List.flatMap_cons] at spells
      obtain ⟨front, back, rfl, frontSpells, backSpells⟩ := Spells.append_iff.mp spells
      have follows : FollowsField (back ++ close :: rest) := by
        cases more with
        | nil =>
            obtain rfl := Spells.nil_iff.mp backSpells
            exact followsField_of_kind closes (by decide) rest
        | cons second others =>
            rw [List.flatMap_cons] at backSpells
            obtain ⟨secondTokens, otherTokens, rfl, secondSpells, -⟩ :=
              Spells.append_iff.mp backSpells
            obtain ⟨first, later, rfl, -, head⟩ := field_head secondSpells
            rw [List.append_assoc]
            exact (head _).2
      have read := field_success frontSpells follows
      obtain ⟨first, later, rfl, notBrace, head⟩ := field_head frontSpells
      rw [List.cons_append] at read
      rw [List.append_assoc, List.cons_append, fields_cons, if_neg notBrace, (head _).1,
        if_neg Bool.false_ne_true, read]
      dsimp only
      rw [ih backSpells]
      rfl

/-- A value of an enum is no header, since a name or the closing brace comes behind the next name. -/
private theorem startsDeclaration_values {items : List Name} {tokens : List Token}
    (spells : Spells tokens (items.map fun value => .identifier value.text)) {name close : Token}
    (isName : name.kind.isName = true) (closes : close.kind = .rightBrace) (rest : List Token) :
    startsDeclaration true (name :: (tokens ++ close :: rest)) = false := by
  cases items with
  | nil =>
      obtain rfl := Spells.nil_iff.mp spells
      exact startsDeclaration_of_not_isName isName (by rw [closes]; rfl) true rest
  | cons second more =>
      obtain ⟨secondName, _, rfl, -, spells⟩ := Spells.cons_iff.mp spells
      cases more with
      | nil =>
          obtain rfl := Spells.nil_iff.mp spells
          exact startsDeclaration_of_not_endsHeader isName (by rw [closes]; decide)
            (by rw [closes]; decide) rest
      | cons third others =>
          obtain ⟨thirdName, _, rfl, thirdEq, -⟩ := Spells.cons_iff.mp spells
          have thirdIsName := Token.isName_of_identifier thirdEq
          exact startsDeclaration_of_not_endsHeader isName
            (TokenKind.ne_of_isName thirdIsName rfl) (TokenKind.ne_of_isName thirdIsName rfl) _

private theorem directives_values {items : List Name} {tokens : List Token}
    (spells : Spells tokens (items.map fun value => .identifier value.text)) {close : Token}
    (closes : close.kind = .rightBrace) (rest : List Token) :
    directives (tokens ++ close :: rest) = .success [] (tokens ++ close :: rest) := by
  cases items with
  | nil =>
      obtain rfl := Spells.nil_iff.mp spells
      rw [List.nil_append, directives, if_neg (by rw [closes]; decide)]
  | cons second others =>
      obtain ⟨secondName, _, rfl, secondEq, -⟩ := Spells.cons_iff.mp spells
      have secondIsName := Token.isName_of_identifier secondEq
      rw [List.cons_append, directives, if_neg (TokenKind.ne_of_isName secondIsName rfl)]

theorem values_success {items : List Name} {tokens : List Token}
    (spells : Spells tokens (items.map fun value => .identifier value.text))
    {close : Token} (closes : close.kind = .rightBrace) {rest : List Token}
    (ends : EndsDeclaration rest) :
    values true (tokens ++ close :: rest) = .success items rest := by
  induction items generalizing tokens with
  | nil =>
      obtain rfl := Spells.nil_iff.mp spells
      rw [List.nil_append, values_rightBrace closes]
      exact values_of_endsDeclaration ends
  | cons item more ih =>
      obtain ⟨name, back, rfl, nameEq, backSpells⟩ := Spells.cons_iff.mp spells
      have isName := Token.isName_of_identifier nameEq
      have notBrace : name.kind ≠ .rightBrace := TokenKind.ne_of_isName isName rfl
      rw [List.cons_append, values_cons, if_neg notBrace,
        startsDeclaration_values backSpells isName closes, if_neg Bool.false_ne_true,
        TokenKind.not_isDescription_of_isName isName, if_neg Bool.false_ne_true,
        name?_of_identifier nameEq, directives_values backSpells closes]
      dsimp only
      rw [ih backSpells]
      rfl

end Production

end SdlWorkbench
