import SdlWorkbench.Proofs.Document.Continuing
import SdlWorkbench.Proofs.Token.Layout
/-!
Directive and schema definitions.

Both begin with the keyword of an unsupported declaration, but no name comes behind it, so that neither
has a header.  They are reported as unsupported at the start of a text.  Behind a declaration they are
read as further members of it: an enum takes the words of a directive definition for values, and in the
other cases the errors are those of members.
-/

namespace SdlWorkbench

def directiveKeyword : Name := Name.literal "directive"

def onKeyword : Name := Name.literal "on"

def schemaKeyword : Name := Name.literal "schema"

/-- The definition of a directive with one location, such as `directive @name on location`. -/
def directiveDefinition (name location : Name) : Text :=
  directiveKeyword.text ++ ' ' :: '@' :: name.text ++ ' ' :: onKeyword.text ++ ' ' :: location.text

/-- The definition of a schema with one root operation, such as `schema { operation: type }`. -/
def schemaDefinition (operation type : Name) : Text :=
  schemaKeyword.text ++ ' ' :: '\x7b' :: ' ' :: operation.text ++ ':' :: ' ' :: type.text ++
    [' ', '\x7d']

def Name.tokenAt (name : Name) (start : Nat) : Token :=
  { Lexeme.identifier name.text with span := ⟨start, start + name.text.utf8Length⟩ }

/-- The errors that are found behind the mark of a directive definition.  The name and `on` make a header
when the name is a keyword, and then a declaration of the name `on` begins there. -/
def errorsBehindMark (name : Token) : List SyntaxError :=
  if name.kind = .typeKeyword then [.unexpectedEnd .fieldColon]
  else if name.isUnsupportedKeyword then [.unsupportedDeclaration name.text name.span]
  else []

theorem nextIsNot_nil (kind : TokenKind) : NextIsNot kind [] := by
  intro token impossible
  cases impossible

namespace Production

theorem fields_of_not_colon {first second : Token} {name : Name} (named : first.name? = some name)
    (notName : second.kind.isName = false) (notColon : second.kind ≠ .colon) (rest : List Token) :
    fields false (first :: second :: rest) = .failure (second.unexpected .fieldColon) rest := by
  have isName := Lexeme.isName_of_name? named
  have fieldRead : field false (first :: second :: rest) =
      .failure (second.unexpected .fieldColon) rest := by
    rw [field, bind_success (description_none isName _), describedField,
      bind_success (nameToken_success named _ _)]
    simp only [bind, Production.bind, token, if_neg notColon]
  rw [fields_cons, if_neg (TokenKind.ne_of_isName isName rfl),
    startsDeclaration_of_not_isName isName notName, if_neg Bool.false_ne_true, fieldRead]

theorem values_cons_name {first : Token} {rest : List Token} {name : Name}
    (named : first.name? = some name) (noHeader : startsDeclaration false (first :: rest) = false) :
    values false (first :: rest) =
      match directives rest with
      | .success _ left => (values false left).map (name :: ·)
      | .failure error left => .failure error left := by
  have isName := Lexeme.isName_of_name? named
  have step := values_cons false first rest
  rw [if_neg (TokenKind.ne_of_isName isName rfl), noHeader, if_neg Bool.false_ne_true,
    TokenKind.not_isDescription_of_isName isName, if_neg Bool.false_ne_true, named] at step
  exact step

theorem directives_of_not_mark {tokens : List Token} (noMark : NextIsNot .atSign tokens) :
    directives tokens = .success [] tokens := by
  cases tokens with
  | nil => rw [directives]
  | cons first rest => rw [directives_cons, if_neg (noMark first rfl)]

theorem declaration_of_keyword {keyword header : Token} {kind : TypeKind} {name : Name}
    {rest : List Token} (isName : keyword.kind.isName = true)
    (introduces : declarationKeyword (keyword :: header :: rest) = .success kind (header :: rest))
    (named : header.name? = some name) (noMark : NextIsNot .atSign rest)
    (noBrace : NextIsNot .leftBrace rest) :
    declaration (keyword :: header :: rest) = (body kind false rest).map fun body =>
      { name := name, description := none, directives := [], body := body } := by
  rw [declaration, bind_success (description_none isName _), describedDeclaration,
    bind_success introduces, bind_success (name_success named _ _),
    bind_success (directives_of_not_mark noMark), bind_success (optional_none noBrace)]
  rfl

theorem declaration_of_unsupported {keyword : Token} {rest : List Token}
    (unsupported : keyword.isUnsupportedKeyword = true) :
    declaration (keyword :: rest) =
      .failure (.unsupportedDeclaration keyword.text keyword.span) rest := by
  have isIdentifier : keyword.kind = .identifier := by
    simp only [Lexeme.isUnsupportedKeyword, Bool.and_eq_true, decide_eq_true_eq] at unsupported
    exact unsupported.1
  have isName : keyword.kind.isName = true := by rw [isIdentifier]; rfl
  rw [declaration, bind_success (description_none isName _), describedDeclaration]
  simp only [bind, Production.bind, declarationKeyword, isIdentifier, unsupported, reduceCtorEq,
    if_false, if_true]

/-- The last name of a text is no header, and a colon is missing behind it. -/
theorem fields_of_name {token : Token} {name : Name} (named : token.name? = some name) :
    fields false [token] = .failure (.unexpectedEnd .fieldColon) [] := by
  have isName := Lexeme.isName_of_name? named
  have noHeader : startsDeclaration false [token] = false := by
    rw [startsDeclaration, afterDescription_of_isName isName]
  have fieldRead : field false [token] = .failure (.unexpectedEnd .fieldColon) [] := by
    rw [field, bind_success (description_none isName _), describedField,
      bind_success (nameToken_success named _ _)]
    rfl
  rw [fields_cons, if_neg (TokenKind.ne_of_isName isName rfl), noHeader, if_neg Bool.false_ne_true,
    fieldRead]

theorem values_of_name {token : Token} {name : Name} (named : token.name? = some name) :
    values false [token] = .success [name] [] := by
  have isName := Lexeme.isName_of_name? named
  have noHeader : startsDeclaration false [token] = false := by
    rw [startsDeclaration, afterDescription_of_isName isName]
  have noneLeft : values false [] = .success [] [] := by rw [values]
  rw [values_cons_name named noHeader, directives]
  dsimp only
  rw [noneLeft]
  rfl

end Production

section Tokens

variable {name on location : Token} {nameRead locationRead : Name}

theorem startsDeclaration_cons_name {first second : Token} {rest : List Token}
    (isName : first.kind.isName = true) (secondIsName : second.kind.isName = true)
    (noColon : NextIsNot .colon rest) :
    startsDeclaration false (first :: second :: rest) = first.isDeclarationKeyword := by
  have ends : endsHeader false rest = true := by
    cases rest with
    | nil => rfl
    | cons third more =>
        have notColon := noColon third rfl
        simp [endsHeader, notColon]
  rw [startsDeclaration, afterDescription_of_isName isName]
  simp only [secondIsName, ends, Bool.and_true]

namespace Production

/-- The directive is called `type`.  The type `on` has a member, which lacks its colon. -/
theorem declaration_of_typeKeyword (isType : name.kind = .typeKeyword)
    (onNamed : on.name? = some onKeyword) (locationNamed : location.name? = some locationRead) :
    declaration [name, on, location] = .failure (.unexpectedEnd .fieldColon) [] := by
  have locationIsName := Lexeme.isName_of_name? locationNamed
  have introduces : declarationKeyword [name, on, location] = .success .object [on, location] := by
    simp [declarationKeyword, isType]
  rw [declaration_of_keyword (by rw [isType]; rfl) introduces onNamed
    (nextIsNot_cons (TokenKind.ne_of_isName locationIsName rfl) [])
    (nextIsNot_cons (TokenKind.ne_of_isName locationIsName rfl) [])]
  simp only [body, fields_of_name locationNamed, Parsed.map]

/-- The directive is called `enum`.  The enum `on` has a value. -/
theorem declaration_of_enumKeyword (isEnum : name.kind = .enumKeyword)
    (onNamed : on.name? = some onKeyword) (locationNamed : location.name? = some locationRead) :
    declaration [name, on, location] = .success
      { name := onKeyword, description := none, directives := [],
        body := .enumeration [locationRead] } [] := by
  have locationIsName := Lexeme.isName_of_name? locationNamed
  have introduces : declarationKeyword [name, on, location] =
      .success .enumeration [on, location] := by simp [declarationKeyword, isEnum]
  rw [declaration_of_keyword (by rw [isEnum]; rfl) introduces onNamed
    (nextIsNot_cons (TokenKind.ne_of_isName locationIsName rfl) [])
    (nextIsNot_cons (TokenKind.ne_of_isName locationIsName rfl) [])]
  simp only [body, values_of_name locationNamed, Parsed.map]

end Production

theorem attempts_behindMark (named : name.name? = some nameRead)
    (onNamed : on.name? = some onKeyword) (onNoKeyword : on.isDeclarationKeyword = false)
    (locationNamed : location.name? = some locationRead) :
    (Document.attempts (skipToDeclaration [name, on, location])).filterMap Document.failed? =
      errorsBehindMark name := by
  have onIsName := Lexeme.isName_of_name? onNamed
  have locationIsName := Lexeme.isName_of_name? locationNamed
  have notColon : NextIsNot .colon [location] :=
    nextIsNot_cons (TokenKind.ne_of_isName locationIsName rfl) []
  have nothingLeft : skipToDeclaration [on, location] = [] := by
    rw [skipToDeclaration, startsDeclaration_cons_name onIsName locationIsName (nextIsNot_nil _),
      onNoKeyword, if_neg Bool.false_ne_true, skipToDeclaration, startsDeclaration,
      afterDescription_of_isName locationIsName]
    rfl
  rw [skipToDeclaration, startsDeclaration_cons_name (Lexeme.isName_of_name? named) onIsName notColon,
    errorsBehindMark]
  by_cases isType : name.kind = .typeKeyword
  · have keyword : name.isDeclarationKeyword = true := by simp [Lexeme.isDeclarationKeyword, isType]
    rw [if_pos isType, keyword, if_pos rfl, Document.attempts_cons,
      Production.declaration_of_typeKeyword isType onNamed locationNamed]
    simp only [skipToDeclaration, Document.attempts]
    rfl
  rw [if_neg isType]
  by_cases isEnum : name.kind = .enumKeyword
  · have keyword : name.isDeclarationKeyword = true := by simp [Lexeme.isDeclarationKeyword, isEnum]
    have supported : name.isUnsupportedKeyword = false := by
      simp [Lexeme.isUnsupportedKeyword, isEnum]
    rw [supported, if_neg Bool.false_ne_true, keyword, if_pos rfl, Document.attempts_cons,
      Production.declaration_of_enumKeyword isEnum onNamed locationNamed]
    simp only [Document.attempts]
    rfl
  by_cases unsupported : name.isUnsupportedKeyword = true
  · have keyword : name.isDeclarationKeyword = true := by
      simp [Lexeme.isDeclarationKeyword, unsupported]
    rw [if_pos unsupported, keyword, if_pos rfl, Document.attempts_cons,
      Production.declaration_of_unsupported unsupported]
    dsimp only
    rw [nothingLeft, Document.attempts]
    rfl
  · have keyword : name.isDeclarationKeyword = false := by
      simp [Lexeme.isDeclarationKeyword, isType, isEnum, unsupported]
    rw [if_neg unsupported, keyword, if_neg Bool.false_ne_true, nothingLeft, Document.attempts]
    rfl

end Tokens

/-! ### The definitions -/

namespace Name

theorem name?_tokenAt (name : Name) (start : Nat) : (name.tokenAt start).name? = some name :=
  Production.name?_of_identifier rfl

theorem isName_tokenAt (name : Name) (start : Nat) : (name.tokenAt start).kind.isName = true :=
  Lexeme.identifier_isName name.text

end Name

def TokenKind.tokenAt (kind : TokenKind) (c : Char) (start : Nat) : Token :=
  { Lexeme.mark kind c with span := ⟨start, start + 1⟩ }

/-- One space between the words, and none in front of the name. -/
def directiveLayout (name location : Name) : Layout where
  words :=
    [([], .identifier directiveKeyword.text), ([' '], .mark .atSign '@'),
      ([], .identifier name.text), ([' '], .identifier onKeyword.text),
      ([' '], .identifier location.text)]
  after := []

def schemaLayout (operation type : Name) : Layout where
  words :=
    [([], .identifier schemaKeyword.text), ([' '], .mark .leftBrace '\x7b'),
      ([' '], .identifier operation.text), ([], .mark .colon ':'), ([' '], .identifier type.text),
      ([' '], .mark .rightBrace '\x7d')]
  after := []

theorem Token.ofText_directiveDefinition (name location : Name) :
    Token.ofText (directiveDefinition name location) =
      .ok [directiveKeyword.tokenAt 0, TokenKind.atSign.tokenAt '@' 10, name.tokenAt 11,
        onKeyword.tokenAt (12 + name.text.utf8Length),
        location.tokenAt (15 + name.text.utf8Length)] := by
  have sound : (directiveLayout name location).Sound := by
    refine ⟨?_, rfl, ?_⟩
    · simp [directiveLayout, isIgnorable, isSeparator]
    · simp [directiveLayout, Lexeme.mark, TokenKind.isMark]
  have inClass : ∀ lexeme ∈ (directiveLayout name location).lexemes, lexeme.InClass := by
    simp only [Layout.lexemes, directiveLayout, List.map_cons, List.map_nil, List.forall_mem_cons]
    exact ⟨.identifier directiveKeyword.isIdentifier_text, .mark rfl,
      .identifier name.isIdentifier_text, .identifier onKeyword.isIdentifier_text,
      .identifier location.isIdentifier_text, List.forall_mem_nil _⟩
  have text : directiveDefinition name location = (directiveLayout name location).text := by
    simp only [directiveDefinition, Layout.text, directiveLayout, Lexeme.identifier, Lexeme.mark,
      List.flatMap_cons, List.flatMap_nil, List.append_assoc, List.cons_append, List.nil_append,
      List.append_nil]
  have none : Text.utf8Length [] = 0 := rfl
  have blank : Text.utf8Length [' '] = 1 := rfl
  have mark : Text.utf8Length ['@'] = 1 := rfl
  have keyword : directiveKeyword.text.utf8Length = 9 := by decide
  have on : onKeyword.text.utf8Length = 2 := by decide
  rw [text, Layout.ofText_text sound inClass]
  simp only [Layout.tokens, directiveLayout, Layout.tokensFrom, Name.tokenAt, TokenKind.tokenAt,
    Lexeme.identifier, Lexeme.mark, none, blank, mark, keyword, on, Except.ok.injEq,
    List.cons.injEq, Token.mk.injEq, Span.mk.injEq, true_and, and_true]
  omega

theorem Token.ofText_schemaDefinition (operation type : Name) :
    Token.ofText (schemaDefinition operation type) =
      .ok [schemaKeyword.tokenAt 0, TokenKind.leftBrace.tokenAt '\x7b' 7, operation.tokenAt 9,
        TokenKind.colon.tokenAt ':' (9 + operation.text.utf8Length),
        type.tokenAt (11 + operation.text.utf8Length),
        TokenKind.rightBrace.tokenAt '\x7d'
          (12 + operation.text.utf8Length + type.text.utf8Length)] := by
  have sound : (schemaLayout operation type).Sound := by
    refine ⟨?_, rfl, ?_⟩
    · simp [schemaLayout, isIgnorable, isSeparator]
    · simp [schemaLayout, Lexeme.mark, TokenKind.isMark]
  have inClass : ∀ lexeme ∈ (schemaLayout operation type).lexemes, lexeme.InClass := by
    simp only [Layout.lexemes, schemaLayout, List.map_cons, List.map_nil, List.forall_mem_cons]
    exact ⟨.identifier schemaKeyword.isIdentifier_text, .mark rfl,
      .identifier operation.isIdentifier_text, .mark rfl, .identifier type.isIdentifier_text,
      .mark rfl, List.forall_mem_nil _⟩
  have text : schemaDefinition operation type = (schemaLayout operation type).text := by
    simp only [schemaDefinition, Layout.text, schemaLayout, Lexeme.identifier, Lexeme.mark,
      List.flatMap_cons, List.flatMap_nil, List.append_assoc, List.cons_append, List.nil_append,
      List.append_nil]
  have none : Text.utf8Length [] = 0 := rfl
  have blank : Text.utf8Length [' '] = 1 := rfl
  have opening : Text.utf8Length ['\x7b'] = 1 := rfl
  have colon : Text.utf8Length [':'] = 1 := rfl
  have closing : Text.utf8Length ['\x7d'] = 1 := rfl
  have keyword : schemaKeyword.text.utf8Length = 6 := by decide
  rw [text, Layout.ofText_text sound inClass]
  simp only [Layout.tokens, schemaLayout, Layout.tokensFrom, Name.tokenAt, TokenKind.tokenAt,
    Lexeme.identifier, Lexeme.mark, none, blank, opening, colon, closing, keyword, Except.ok.injEq,
    List.cons.injEq, Token.mk.injEq, Span.mk.injEq, true_and, and_true]
  omega

theorem startsDeclaration_of_isMark {token : Token} (isMark : token.kind.isMark = true)
    (inBraces : Bool) (rest : List Token) : startsDeclaration inBraces (token :: rest) = false := by
  have notDescription : token.kind.isDescription = false := by
    revert isMark
    cases token.kind <;> decide
  have notKeyword : token.isDeclarationKeyword = false := by
    have other : token.kind ≠ .typeKeyword ∧ token.kind ≠ .enumKeyword ∧
        token.kind ≠ .identifier := by
      revert isMark
      cases token.kind <;> decide
    simp [Lexeme.isDeclarationKeyword, Lexeme.isUnsupportedKeyword, other]
  rw [startsDeclaration, afterDescription, notDescription, if_neg Bool.false_ne_true]
  cases rest with
  | nil => rfl
  | cons second more => simp only [notKeyword, Bool.false_and]

theorem skipToDeclaration_of_isMark {token : Token} (isMark : token.kind.isMark = true)
    (rest : List Token) : skipToDeclaration (token :: rest) = skipToDeclaration rest := by
  rw [skipToDeclaration, startsDeclaration_of_isMark isMark, if_neg Bool.false_ne_true]

/-- There is no header in the braces of a schema definition. -/
theorem skipToDeclaration_schema (operation type : Name) (start next : Nat) (colon close : Token)
    (isColon : colon.kind = .colon) (isClose : close.kind = .rightBrace) :
    skipToDeclaration [operation.tokenAt start, colon, type.tokenAt next, close] = [] := by
  have colonMark : colon.kind.isMark = true := by rw [isColon]; rfl
  have closeMark : close.kind.isMark = true := by rw [isClose]; rfl
  have operationFirst : startsDeclaration false
      [operation.tokenAt start, colon, type.tokenAt next, close] = false :=
    startsDeclaration_of_not_isName (operation.isName_tokenAt start) (by rw [isColon]; rfl) false _
  have typeFirst : startsDeclaration false [type.tokenAt next, close] = false :=
    startsDeclaration_of_not_isName (type.isName_tokenAt next) (by rw [isClose]; rfl) false _
  rw [skipToDeclaration, operationFirst, if_neg Bool.false_ne_true,
    skipToDeclaration_of_isMark colonMark, skipToDeclaration, typeFirst, if_neg Bool.false_ne_true,
    skipToDeclaration_of_isMark closeMark, skipToDeclaration]

theorem Document.collect_error {α : Type} (error : SyntaxError)
    (rest : List (Except SyntaxError α)) :
    collect (.error error :: rest) = .error (error :: rest.filterMap failed?) := rfl

theorem onKeyword_no_keyword (start : Nat) :
    (onKeyword.tokenAt start).isDeclarationKeyword = false := by
  have same : (onKeyword.tokenAt start).toLexeme = (onKeyword.tokenAt 0).toLexeme := rfl
  rw [same]
  decide

theorem Document.ofText_directiveDefinition (name location : Name) :
    ofText (directiveDefinition name location) =
      .error (.unsupportedDeclaration directiveKeyword.text ⟨0, 9⟩ ::
        errorsBehindMark (name.tokenAt 11)) := by
  have unsupported : (directiveKeyword.tokenAt 0).isUnsupportedKeyword = true := by decide
  rw [ofText, Token.ofText_directiveDefinition]
  dsimp only
  rw [ofTokens, attempts_cons, Production.declaration_of_unsupported unsupported]
  dsimp only
  rw [collect_error, skipToDeclaration_of_isMark rfl,
    attempts_behindMark (name.name?_tokenAt _) (onKeyword.name?_tokenAt _) (onKeyword_no_keyword _)
      (location.name?_tokenAt _)]
  rfl

theorem Document.ofText_schemaDefinition (operation type : Name) :
    ofText (schemaDefinition operation type) =
      .error [.unsupportedDeclaration schemaKeyword.text ⟨0, 6⟩] := by
  have unsupported : (schemaKeyword.tokenAt 0).isUnsupportedKeyword = true := by decide
  rw [ofText, Token.ofText_schemaDefinition]
  dsimp only
  rw [ofTokens, attempts_cons, Production.declaration_of_unsupported unsupported]
  dsimp only
  rw [collect_error, skipToDeclaration_of_isMark rfl,
    skipToDeclaration_schema operation type _ _ _ _ rfl rfl, attempts]
  rfl

namespace Declaration

/-- What becomes of a declaration when a directive definition is read as further members of it. -/
def withDirectiveDefinition (last : Declaration Field) (name location : Name) :
    Except (List SyntaxError) (Declaration Field) :=
  match last.body with
  | .object _ =>
      .error (.unexpectedToken .fieldColon (.mark .atSign '@') ⟨10, 11⟩ ::
        errorsBehindMark (name.tokenAt 11))
  | .enumeration values =>
      .ok { last with
        body := .enumeration (values ++ [directiveKeyword, onKeyword, location]) }

/-- What becomes of a declaration when a schema definition is read as further members of it: another
member is missing where the brace stands. -/
def withSchemaDefinition (last : Declaration Field) :
    Except (List SyntaxError) (Declaration Field) :=
  match last.body with
  | .object _ => .error [.unexpectedToken .fieldColon (.mark .leftBrace '\x7b') ⟨7, 8⟩]
  | .enumeration _ => .error [.unexpectedToken .enumValue (.mark .leftBrace '\x7b') ⟨7, 8⟩]

end Declaration

namespace Production

/-- To an enum the name of a directive definition is a directive of the value in front of it. -/
theorem values_directiveDefinition (name location : Name) (first second third fourth fifth : Nat) :
    values false [directiveKeyword.tokenAt first, TokenKind.atSign.tokenAt '@' second,
      name.tokenAt third, onKeyword.tokenAt fourth, location.tokenAt fifth] =
        .success [directiveKeyword, onKeyword, location] [] := by
  have onRead : values false [onKeyword.tokenAt fourth, location.tokenAt fifth] =
      .success [onKeyword, location] [] := by
    have noHeader := (startsDeclaration_cons_name (onKeyword.isName_tokenAt fourth)
      (location.isName_tokenAt fifth) (nextIsNot_nil _)).trans (onKeyword_no_keyword fourth)
    have noMark : NextIsNot .atSign [location.tokenAt fifth] :=
      nextIsNot_cons (TokenKind.ne_of_isName (location.isName_tokenAt fifth) rfl) []
    rw [values_cons_name (onKeyword.name?_tokenAt fourth) noHeader, directives_of_not_mark noMark]
    dsimp only
    rw [values_of_name (location.name?_tokenAt fifth)]
    rfl
  have dropped : directives [TokenKind.atSign.tokenAt '@' second, name.tokenAt third,
      onKeyword.tokenAt fourth, location.tokenAt fifth] =
        .success [{ name, arguments := Arguments.empty }]
          [onKeyword.tokenAt fourth, location.tokenAt fifth] := by
    have spells : Spells [TokenKind.atSign.tokenAt '@' second, name.tokenAt third]
        ([{ name, arguments := Arguments.empty : Directive }].flatMap Directive.lexemes) := rfl
    have onIsName := onKeyword.isName_tokenAt fourth
    exact directives_success (Directive.form_flatMap_lexemes _) spells
      (nextIsNot_cons (TokenKind.ne_of_isName onIsName rfl) _)
      (nextIsNot_cons (TokenKind.ne_of_isName onIsName rfl) _)
  have noHeader := startsDeclaration_of_not_isName (directiveKeyword.isName_tokenAt first)
    (rfl : (TokenKind.atSign.tokenAt '@' second).kind.isName = false) false
    [name.tokenAt third, onKeyword.tokenAt fourth, location.tokenAt fifth]
  rw [values_cons_name (directiveKeyword.name?_tokenAt first) noHeader, dropped]
  dsimp only
  rw [onRead]
  rfl

theorem values_schemaDefinition (first second : Nat) (rest : List Token) :
    values false (schemaKeyword.tokenAt first :: TokenKind.leftBrace.tokenAt '\x7b' second :: rest) =
      .failure ((TokenKind.leftBrace.tokenAt '\x7b' second).unexpected .enumValue) rest := by
  have noHeader := startsDeclaration_of_not_isName (schemaKeyword.isName_tokenAt first)
    (rfl : (TokenKind.leftBrace.tokenAt '\x7b' second).kind.isName = false) false rest
  have noMark : NextIsNot .atSign (TokenKind.leftBrace.tokenAt '\x7b' second :: rest) :=
    nextIsNot_cons (fun same => TokenKind.noConfusion same) rest
  rw [values_cons_name (schemaKeyword.name?_tokenAt first) noHeader, directives_of_not_mark noMark]
  dsimp only
  rw [values_cons, if_neg (fun same => TokenKind.noConfusion same), startsDeclaration_of_isMark rfl,
    if_neg Bool.false_ne_true]
  rfl

end Production

namespace Document

theorem collect_attemptsBy_directive (last : Declaration Field) (name location : Name)
    (fourth fifth : Nat) :
    collect (attemptsBy (Production.further last)
      [directiveKeyword.tokenAt 0, TokenKind.atSign.tokenAt '@' 10, name.tokenAt 11,
        onKeyword.tokenAt fourth, location.tokenAt fifth]) =
      (last.withDirectiveDefinition name location).map fun changed => [changed] := by
  cases bodyEq : last.body with
  | object items =>
      simp only [attemptsBy, Production.further, Declaration.withDirectiveDefinition, bodyEq,
        Production.furtherBody, Production.behind]
      rw [Production.fields_of_not_colon (directiveKeyword.name?_tokenAt 0) rfl
        (fun same => TokenKind.noConfusion same)]
      simp only [Parsed.map]
      rw [collect_error, attempts_behindMark (name.name?_tokenAt _) (onKeyword.name?_tokenAt _)
        (onKeyword_no_keyword _) (location.name?_tokenAt _)]
      rfl
  | enumeration values =>
      simp only [attemptsBy, Production.further, Declaration.withDirectiveDefinition, bodyEq,
        Production.furtherBody, Production.behind, Production.values_directiveDefinition,
        Parsed.map, attempts]
      rfl

theorem collect_attemptsBy_schema (last : Declaration Field) (operation type : Name)
    (third fourth fifth sixth : Nat) :
    collect (attemptsBy (Production.further last)
      [schemaKeyword.tokenAt 0, TokenKind.leftBrace.tokenAt '\x7b' 7, operation.tokenAt third,
        TokenKind.colon.tokenAt ':' fourth, type.tokenAt fifth,
        TokenKind.rightBrace.tokenAt '\x7d' sixth]) =
      last.withSchemaDefinition.map fun changed => [changed] := by
  cases bodyEq : last.body with
  | object items =>
      simp only [attemptsBy, Production.further, Declaration.withSchemaDefinition, bodyEq,
        Production.furtherBody, Production.behind]
      rw [Production.fields_of_not_colon (schemaKeyword.name?_tokenAt 0) rfl
        (fun same => TokenKind.noConfusion same)]
      simp only [Parsed.map]
      rw [collect_error, skipToDeclaration_schema operation type _ _ _ _ rfl rfl, attempts]
      rfl
  | enumeration values =>
      simp only [attemptsBy, Production.further, Declaration.withSchemaDefinition, bodyEq,
        Production.furtherBody, Production.behind, Production.values_schemaDefinition, Parsed.map]
      rw [collect_error, skipToDeclaration_schema operation type _ _ _ _ rfl rfl, attempts]
      rfl

end Document

namespace Schema

/-- A directive or a schema definition is reported as unsupported at the start of a text.  On the line
behind declarations that end in a closing brace it is read as further members of the last of them. -/
theorem declarationsRead_definitions {text : Text} {front : List Token} {close : Token}
    (read : Token.ofText text = .ok (front ++ [close])) (closes : close.kind = .rightBrace)
    {supply : IdSupply} {document : Document}
    (accepted : declarationsRead supply text = .ok document) (name location operation type : Name) :
    ∃ before last, document = before ++ [last] ∧
      declarationsRead supply (text ++ '\n' :: directiveDefinition name location) =
        ((last.withDirectiveDefinition name location).map fun changed => before ++ [changed]).mapError
          (Document.shiftErrors (text.utf8Length + 1)) ∧
      declarationsRead supply (text ++ '\n' :: schemaDefinition operation type) =
        (last.withSchemaDefinition.map fun changed => before ++ [changed]).mapError
          (Document.shiftErrors (text.utf8Length + 1)) ∧
      declarationsRead supply (directiveDefinition name location) =
        .error (.unsupportedDeclaration directiveKeyword.text ⟨0, 9⟩ ::
          errorsBehindMark (name.tokenAt 11)) ∧
      declarationsRead supply (schemaDefinition operation type) =
        .error [.unsupportedDeclaration schemaKeyword.text ⟨0, 6⟩] := by
  simp only [declarationsRead_eq] at accepted ⊢
  obtain ⟨before, last, rfl, goesOn⟩ := Document.ofText_goesOn read closes accepted
  have together_map : ∀ (result : Except (List SyntaxError) (Declaration Field)),
      Document.together (.ok before) ((result.map fun changed => [changed]).mapError
        (Document.shiftErrors (text.utf8Length + 1))) =
      (result.map fun changed => before ++ [changed]).mapError
        (Document.shiftErrors (text.utf8Length + 1)) := by
    intro result
    cases result <;> rfl
  refine ⟨before, last, rfl, ?_, ?_, Document.ofText_directiveDefinition name location,
    Document.ofText_schemaDefinition operation type⟩
  · rw [goesOn _ _ (Token.ofText_directiveDefinition name location),
      Document.collect_attemptsBy_directive, together_map]
  · rw [goesOn _ _ (Token.ofText_schemaDefinition operation type),
      Document.collect_attemptsBy_schema, together_map]

def closedEnum : Text :=
  "enum E \x7b A \x7d".toList

def enumOf (values : List Name) : Declaration Field where
  name := Name.literal "E"
  body := .enumeration values

theorem closedEnum_read : Token.ofText closedEnum =
    .ok ([⟨⟨.enumKeyword, "enum".toList⟩, ⟨0, 4⟩⟩, ⟨⟨.identifier, ['E']⟩, ⟨5, 6⟩⟩,
      ⟨⟨.leftBrace, ['\x7b']⟩, ⟨7, 8⟩⟩, ⟨⟨.identifier, ['A']⟩, ⟨9, 10⟩⟩] ++
        [⟨⟨.rightBrace, ['\x7d']⟩, ⟨11, 12⟩⟩]) := by decide +kernel

theorem closedEnum_accepted :
    declarationsRead ⟨0⟩ closedEnum = .ok [enumOf [Name.literal "A"]] := by decide +kernel

theorem closedEnum_directiveDefinition :
    declarationsRead ⟨0⟩
        (closedEnum ++ '\n' :: directiveDefinition (Name.literal "n") (Name.literal "l")) =
      .ok [enumOf [Name.literal "A", directiveKeyword, onKeyword, Name.literal "l"]] := by
  obtain ⟨before, last, parts, directive, -⟩ := declarationsRead_definitions closedEnum_read rfl
    closedEnum_accepted (Name.literal "n") (Name.literal "l") (Name.literal "f") (Name.literal "T")
  obtain ⟨rfl, ends⟩ := (List.append_eq_singleton_iff.mp parts.symm).resolve_right (by simp)
  cases ends
  exact directive

/-- A text is refused because of a declaration with the given keyword. -/
def ReportsUnsupported (keyword : Name) (read : Except (List SyntaxError) Document) : Prop :=
  ∃ errors span, read = .error errors ∧ .unsupportedDeclaration keyword.text span ∈ errors

/-- A text that ends in a closing brace and is accepted can have a definition behind it that is not
reported. -/
theorem definitions_not_always_reported :
    ¬ ∀ (text : Text) (front : List Token) (close : Token) (document : Document)
        (name location operation type : Name),
      Token.ofText text = .ok (front ++ [close]) → close.kind = .rightBrace →
      declarationsRead ⟨0⟩ text = .ok document →
        ReportsUnsupported directiveKeyword
            (declarationsRead ⟨0⟩ (text ++ '\n' :: directiveDefinition name location)) ∧
          ReportsUnsupported schemaKeyword
            (declarationsRead ⟨0⟩ (text ++ '\n' :: schemaDefinition operation type)) := by
  intro always
  obtain ⟨⟨errors, span, refused, -⟩, -⟩ := always closedEnum _ _ _ (Name.literal "n")
    (Name.literal "l") (Name.literal "f") (Name.literal "T") closedEnum_read rfl closedEnum_accepted
  have accepted : declarationsRead ⟨0⟩
      (closedEnum ++ '\n' :: directiveDefinition (Name.literal "n") (Name.literal "l")) =
        .ok [enumOf [Name.literal "A", directiveKeyword, onKeyword, Name.literal "l"]] := by
    decide +kernel
  rw [accepted] at refused
  cases refused

end Schema

end SdlWorkbench
