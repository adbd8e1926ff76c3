import SdlWorkbench.Proofs.Document.Members
/-!
Reading canonical text.

A declaration ends at its closing brace when the text ends there or another header follows, so the
declarations of canonical text are read one by one.  What is read is the document with its
descriptions settled.
-/

namespace SdlWorkbench

namespace Production

theorem declarationKeyword_success {token : Token} {kind : TypeKind}
    (spelled : token.toLexeme = .identifier kind.keyword) (rest : List Token) :
    declarationKeyword (token :: rest) = .success kind rest := by
  cases kind with
  | object =>
      have isKeyword : token.kind = .typeKeyword := by
        rw [spelled]
        decide
      rw [declarationKeyword, if_pos isKeyword]
  | enumeration =>
      have isKeyword : token.kind = .enumKeyword := by
        rw [spelled]
        decide
      rw [declarationKeyword, isKeyword, if_neg (by decide), if_pos rfl]

theorem body_success {width : Nat} {members : Body Field} {tokens : List Token}
    (spells : Spells tokens (members.lexemes (List.replicate width ' ')))
    {close : Token} (closes : close.kind = .rightBrace) {rest : List Token}
    (ends : EndsDeclaration rest) :
    body members.kind true (tokens ++ close :: rest) =
      .success (members.map (Field.mapDescription Text.settled)) rest := by
  cases members with
  | object items =>
      change (fields true (tokens ++ close :: rest)).map Body.object = _
      rw [fields_success spells closes ends]
      rfl
  | enumeration items =>
      change (values true (tokens ++ close :: rest)).map Body.enumeration = _
      rw [values_success spells closes ends]
      rfl

theorem spells_declaration {indent : Text} {item : Declaration Field} {tokens : List Token}
    (spells : Spells tokens (item.lexemes indent)) :
    ∃ described keyword name directed opening members close,
      tokens = described ++ keyword :: name ::
        (directed ++ opening :: (members ++ [close])) ∧
      Spells described (descriptionLexemes [] item.description) ∧
      keyword.toLexeme = .identifier item.body.kind.keyword ∧
      name.toLexeme = .identifier item.name.text ∧
      Spells directed (item.directives.flatMap Directive.lexemes) ∧
      opening.kind = .leftBrace ∧ Spells members (item.body.lexemes indent) ∧
      close.kind = .rightBrace := by
  obtain ⟨described, _, rfl, describedSpells, spells⟩ := Spells.append_iff.mp spells
  obtain ⟨keyword, _, rfl, keywordEq, spells⟩ := Spells.cons_iff.mp spells
  obtain ⟨name, _, rfl, nameEq, spells⟩ := Spells.cons_iff.mp spells
  obtain ⟨directed, _, rfl, directedSpells, spells⟩ := Spells.append_iff.mp spells
  obtain ⟨opening, _, rfl, openingEq, spells⟩ := Spells.cons_iff.mp spells
  obtain ⟨members, _, rfl, membersSpells, spells⟩ := Spells.append_iff.mp spells
  obtain ⟨close, _, rfl, closeEq, spells⟩ := Spells.cons_iff.mp spells
  obtain rfl := Spells.nil_iff.mp spells
  exact ⟨described, keyword, name, directed, opening, members, close, rfl, describedSpells,
    keywordEq, nameEq, directedSpells, Token.kind_of_mark openingEq, membersSpells,
    Token.kind_of_mark closeEq⟩

/-- A declaration is read up to its members, and then as far as these are. -/
theorem declaration_of_forms {item : Declaration Field}
    {described directed behind inside rest : List Token} {keyword name : Token}
    {directedLexemes : List Lexeme} {brace : Option Token}
    (describedSpells : Spells described (descriptionLexemes [] item.description))
    (keywordEq : keyword.toLexeme = .identifier item.body.kind.keyword)
    (nameEq : name.toLexeme = .identifier item.name.text)
    (annotated : InSequence DirectiveForm (item.directives.map Directive.written) directedLexemes)
    (directedSpells : Spells directed directedLexemes) (noMark : NextIsNot .atSign behind)
    (noParen : NextIsNot .leftParen behind)
    (opens : optional .leftBrace behind = .success brace inside)
    (membersRead : body item.body.kind brace.isSome inside =
      .success (item.body.map (Field.mapDescription Text.settled)) rest) :
    declaration (described ++ keyword :: name :: (directed ++ behind)) =
      .success (item.mapDescriptions Text.settled) rest := by
  have keywordIsName := Token.isName_of_identifier keywordEq
  rw [declaration, bind_success (optionalDescription_success 0 describedSpells keywordIsName _),
    describedDeclaration, bind_success (declarationKeyword_success keywordEq _),
    bind_success (name_success (name?_of_identifier nameEq) _ _),
    bind_success (directives_success annotated directedSpells noMark noParen), bind_success opens,
    bind_success membersRead]
  rfl

private theorem afterDescription_described {described : Option Text} {indent : Text}
    {tokens : List Token} (spells : Spells tokens (descriptionLexemes indent described))
    {keyword : Token} (isName : keyword.kind.isName = true) (rest : List Token) :
    afterDescription (tokens ++ keyword :: rest) = keyword :: rest := by
  cases described with
  | none =>
      obtain rfl := Spells.nil_iff.mp spells
      exact afterDescription_of_isName isName rest
  | some text =>
      obtain ⟨token, _, rfl, tokenEq, nothing⟩ := Spells.cons_iff.mp spells
      obtain rfl := Spells.nil_iff.mp nothing
      have describes : token.kind.isDescription = true := by
        rw [tokenEq]
        exact Lexeme.ofDescription_isDescription indent text
      simp [afterDescription, describes]

theorem endsHeader_of_noColon {rest : List Token} (noColon : NextIsNot .colon rest) :
    endsHeader false rest = true := by
  cases rest with
  | nil => rfl
  | cons first more => simp [endsHeader, noColon first rfl]

/-- A declaration starts with a header, unless a colon comes behind it. -/
theorem startsDeclaration_of_forms {item : Declaration Field} {described directed behind : List Token}
    {keyword name : Token} {directedLexemes : List Lexeme} {written : List WrittenDirective}
    (describedSpells : Spells described (descriptionLexemes [] item.description))
    (keywordEq : keyword.toLexeme = .identifier item.body.kind.keyword)
    (nameEq : name.toLexeme = .identifier item.name.text)
    (annotated : InSequence DirectiveForm written directedLexemes)
    (directedSpells : Spells directed directedLexemes) (noColon : NextIsNot .colon behind) :
    startsDeclaration false (described ++ keyword :: name :: (directed ++ behind)) = true := by
  have keywordIsName := Token.isName_of_identifier keywordEq
  have isKeyword : keyword.isDeclarationKeyword = true := by
    rw [keywordEq]
    cases item.body.kind <;> decide
  have ends : endsHeader false (directed ++ behind) = true := by
    rcases eq_nil_or_mark annotated directedSpells with rfl | ⟨mark, others, rfl, markKind⟩
    · exact endsHeader_of_noColon noColon
    · exact endsHeader_of_noColon (nextIsNot_cons (by rw [markKind]; decide) _)
  rw [startsDeclaration, afterDescription_described describedSpells keywordIsName]
  simp only [isKeyword, Token.isName_of_identifier nameEq, ends, Bool.and_self]

structure ReadsAs (tokens : List Token) (item : Declaration Field) : Prop where
  starts : ∀ rest, EndsDeclaration rest → startsDeclaration false (tokens ++ rest) = true
  reads : ∀ rest, EndsDeclaration rest → declaration (tokens ++ rest) = .success item rest

theorem declaration_success {width : Nat} {item : Declaration Field} {tokens : List Token}
    (spells : Spells tokens (item.lexemes (List.replicate width ' '))) :
    ReadsAs tokens (item.mapDescriptions Text.settled) := by
  obtain ⟨described, keyword, name, directed, opening, members, close, rfl, describedSpells,
    keywordEq, nameEq, directedSpells, opens, membersSpells, closes⟩ := spells_declaration spells
  have annotated := Directive.form_flatMap_lexemes item.directives
  have apart : ∀ {kind : TokenKind}, kind ≠ .leftBrace → ∀ rest,
      NextIsNot kind (opening :: (members ++ close :: rest)) :=
    fun different rest => nextIsNot_cons (by rw [opens]; exact Ne.symm different) _
  constructor
  · intro rest _
    simp only [List.append_assoc, List.cons_append, List.nil_append]
    exact startsDeclaration_of_forms describedSpells keywordEq nameEq annotated directedSpells
      (apart (by decide) rest)
  · intro rest ends
    simp only [List.append_assoc, List.cons_append, List.nil_append]
    exact declaration_of_forms describedSpells keywordEq nameEq annotated directedSpells
      (apart (by decide) rest) (apart (by decide) rest) (optional_some opens _)
      (body_success membersSpells closes ends)

end Production

namespace Document

theorem attempts_of_sequence {form : Declaration Field → List Lexeme → Prop}
    {change : Declaration Field → Declaration Field} {document : Document} {lexemes : List Lexeme}
    (sequence : InSequence form document lexemes)
    (each : ∀ item ∈ document, ∀ front, form item front → ∀ tokens, Spells tokens front →
      Production.ReadsAs tokens (change item)) {tokens : List Token}
    (spells : Spells tokens lexemes) :
    attempts tokens = (document.map change).map .ok ∧ EndsDeclaration tokens := by
  induction sequence generalizing tokens with
  | nil =>
      obtain rfl := Spells.nil_iff.mp spells
      rw [attempts]
      exact ⟨rfl, .inl rfl⟩
  | @cons item items front back first _ ih =>
      obtain ⟨front, back, rfl, frontSpells, backSpells⟩ := Spells.append_iff.mp spells
      obtain ⟨laterRead, ends⟩ :=
        ih (fun other member => each other (List.mem_cons_of_mem item member)) backSpells
      have reading := each item List.mem_cons_self _ first front frontSpells
      have starts := reading.starts back ends
      have read := reading.reads back ends
      refine ⟨?_, .inr starts⟩
      cases tokensEq : front ++ back with
      | nil =>
          rw [tokensEq] at starts
          cases starts
      | cons token rest =>
          rw [tokensEq] at read
          rw [attempts_cons, read]
          dsimp only
          rw [laterRead]
          rfl

theorem attempts_success {width : Nat} {document : Document} {tokens : List Token}
    (spells : Spells tokens (document.lexemes width)) :
    attempts tokens = (document.mapDescriptions Text.settled).map .ok := by
  have sequence : InSequence
      (fun item lexemes => lexemes = Declaration.lexemes (List.replicate width ' ') item) document
        (document.lexemes width) := InSequence.flatMap fun _ _ => rfl
  refine (attempts_of_sequence sequence (fun item _ front same tokens spells => ?_) spells).1
  exact Production.declaration_success (same ▸ spells)

theorem ofText_of_reads {width : Nat} {document : Document} {text : Text}
    (reads : Reads text (document.lexemes width) []) :
    Document.ofText text = .ok (document.mapDescriptions Text.settled) := by
  obtain ⟨tokens, read, spells⟩ := reads.ofText
  rw [Document.ofText, read]
  change collect (attempts tokens) = _
  rw [attempts_success spells, collect_ok]

/-- The text of a document without a fault is read as the document, its descriptions settled. -/
theorem ofText_render (width : Nat) {document : Document} (sound : document.fault? = none) :
    Document.ofText (document.render width) = .ok (document.mapDescriptions Text.settled) := by
  have reads := Reads.document width sound []
  rw [List.append_nil] at reads
  exact ofText_of_reads reads

theorem ofText_render_newline (width : Nat) {document : Document} (sound : document.fault? = none) :
    Document.ofText (document.render width ++ ['\n']) =
      .ok (document.mapDescriptions Text.settled) := by
  have reads := (Reads.document width sound ['\n']).append (Reads.newline [])
  rw [List.append_nil] at reads
  exact ofText_of_reads reads

end Document

end SdlWorkbench
