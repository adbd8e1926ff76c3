import SdlWorkbench.Proofs.Document.Variants
/-!
Productions on the lexemes of canonical text.

The tokens of a canonical part, followed by tokens that cannot belong to it, are read as that part and
nothing is read of what follows.  Only descriptions may change: they settle.
-/

namespace SdlWorkbench

namespace Field

def mapDescription (f : Text → Text) (field : Field) : Field :=
  { field with description := field.description.map f }

end Field

namespace Declaration

/-- The same declaration with other descriptions, those of its fields included. -/
def mapDescriptions (f : Text → Text) (declaration : Declaration Field) : Declaration Field :=
  { declaration with
    description := declaration.description.map f
    body := declaration.body.map (Field.mapDescription f) }

end Declaration

namespace Document

def mapDescriptions (f : Text → Text) (document : Document) : Document :=
  document.map (Declaration.mapDescriptions f)

end Document

/-- The tokens have the given lexemes, wherever they stand. -/
def Spells (tokens : List Token) (lexemes : List Lexeme) : Prop :=
  tokens.map Token.toLexeme = lexemes

namespace Spells

theorem nil_iff {tokens : List Token} : Spells tokens [] ↔ tokens = [] :=
  List.map_eq_nil_iff

theorem cons_iff {tokens : List Token} {lexeme : Lexeme} {lexemes : List Lexeme} :
    Spells tokens (lexeme :: lexemes) ↔ ∃ token rest,
      tokens = token :: rest ∧ token.toLexeme = lexeme ∧ Spells rest lexemes :=
  List.map_eq_cons_iff

theorem append_iff {tokens : List Token} {first second : List Lexeme} :
    Spells tokens (first ++ second) ↔ ∃ front back,
      tokens = front ++ back ∧ Spells front first ∧ Spells back second :=
  List.map_eq_append_iff

end Spells

theorem Token.kind_of_mark {token : Token} {kind : TokenKind} {c : Char}
    (spelled : token.toLexeme = .mark kind c) : token.kind = kind := by
  rw [spelled]
  rfl

def NextIsNot (kind : TokenKind) (tokens : List Token) : Prop :=
  ∀ token, tokens.head? = some token → token.kind ≠ kind

theorem nextIsNot_cons {kind : TokenKind} {token : Token} (different : token.kind ≠ kind)
    (rest : List Token) : NextIsNot kind (token :: rest) := by
  intro other same
  cases same
  exact different

namespace Production

theorem bind_success {α β : Type} {first : Production α} {next : α → Production β}
    {tokens rest : List Token} {value : α} (read : first tokens = .success value rest) :
    (first >>= next) tokens = next value rest := by
  simp only [bind, Production.bind, read]

theorem pure_success {α : Type} (value : α) (tokens : List Token) :
    (pure value : Production α) tokens = .success value tokens := rfl

theorem token_success {first : Token} {kind : TokenKind} (isKind : first.kind = kind)
    (expected : Expected) (rest : List Token) :
    token kind expected (first :: rest) = .success first rest :=
  if_pos isKind

theorem nameToken_success {first : Token} {name : Name} (named : first.name? = some name)
    (expected : Expected) (rest : List Token) :
    nameToken expected (first :: rest) = .success (first, name) rest := by
  simp only [nameToken, named]

theorem name_success {first : Token} {name : Name} (named : first.name? = some name)
    (expected : Expected) (rest : List Token) :
    Production.name expected (first :: rest) = .success name rest := by
  rw [Production.name, nameToken_success named]
  rfl

theorem optional_some {first : Token} {kind : TokenKind} (isKind : first.kind = kind)
    (rest : List Token) : optional kind (first :: rest) = .success (some first) rest :=
  if_pos isKind

theorem optional_none {tokens : List Token} {kind : TokenKind} (absent : NextIsNot kind tokens) :
    optional kind tokens = .success none tokens := by
  cases tokens with
  | nil => rfl
  | cons first rest => exact if_neg (absent first rfl)

theorem directives_cons (token : Token) (rest : List Token) :
    directives (token :: rest) =
      if token.kind = .atSign then
        match directive (token :: rest) with
        | .success first left => (directives left).map (first :: ·)
        | .failure error left => .failure error left
      else .success [] (token :: rest) := by
  rw [directives]
  congr 1
  cases directive (token :: rest) <;> rfl

theorem fields_cons (inBraces : Bool) (token : Token) (rest : List Token) :
    fields inBraces (token :: rest) =
      if token.kind = .rightBrace then fields false rest
      else if startsDeclaration inBraces (token :: rest) then .success [] (token :: rest)
      else
        match field inBraces (token :: rest) with
        | .success first left => (fields inBraces left).map (first :: ·)
        | .failure error left => .failure error left := by
  rw [fields]
  congr 2
  cases field inBraces (token :: rest) <;> rfl

theorem values_cons (inBraces : Bool) (token : Token) (rest : List Token) :
    values inBraces (token :: rest) =
      if token.kind = .rightBrace then values false rest
      else if startsDeclaration inBraces (token :: rest) then .success [] (token :: rest)
      else if token.kind.isDescription then values inBraces rest
      else
        match token.name? with
        | none => .failure (token.unexpected .enumValue) rest
        | some value =>
            match directives rest with
            | .success _ left => (values inBraces left).map (value :: ·)
            | .failure error left => .failure error left := by
  rw [values]
  congr 3
  cases token.name? with
  | none => rfl
  | some value => cases directives rest <;> rfl

theorem name?_of_identifier {token : Token} {name : Name}
    (spelled : token.toLexeme = .identifier name.text) : token.name? = some name := by
  rw [spelled, Lexeme.identifier_name?]

theorem arguments_success {directive : Name} {bindings : List (Text × Text)} {inside : List Lexeme}
    (form : InSequence BindingForm bindings inside) {close : Token} (closes : close.kind = .rightParen)
    (rest : List Token) {tokens : List Token} (spells : Spells tokens inside) (bound : Arguments) :
    arguments directive bound (tokens ++ close :: rest) =
      .success (bindings.foldl (fun arguments entry => arguments.insert entry.1 entry.2) bound)
        rest := by
  induction form generalizing tokens bound with
  | nil =>
      obtain rfl := Spells.nil_iff.mp spells
      rw [List.nil_append, arguments.eq_def]
      exact if_pos closes
  | cons first _ ih =>
      obtain @⟨keyText, text, separating, valuing, separates, denotes⟩ := first
      obtain ⟨key, _, rfl, keyEq, spells⟩ := Spells.cons_iff.mp spells
      obtain ⟨separator, _, rfl, separatorEq, spells⟩ := Spells.cons_iff.mp spells
      obtain ⟨value, later, rfl, valueEq, spells⟩ := Spells.cons_iff.mp spells
      have keyName : key.kind.isName = true := by
        rw [keyEq]
        exact Lexeme.identifier_isName keyText
      have keyKind : key.kind ≠ .rightParen := by
        intro isParen
        rw [isParen] at keyName
        cases keyName
      have separatorKind : (decide (separator.kind ≠ .colon) && decide (separator.kind ≠ .equals)) =
          false := by
        rw [separatorEq]
        rcases separates with rfl | rfl <;> rfl
      have keyEntry : key.text = keyText := by
        rw [keyEq]
        rfl
      have valueText : value.argumentValue? = some text := by rw [valueEq, denotes]
      simp only [List.cons_append]
      have step : arguments directive bound
          (key :: separator :: value :: (later ++ close :: rest)) =
            arguments directive (bound.insert keyText text) (later ++ close :: rest) := by
        rw [arguments.eq_def]
        simp only [keyKind, keyName, separatorKind, valueText, keyEntry, if_false, Bool.not_true,
          Bool.false_eq_true]
      rw [step]
      exact ih spells _

theorem directive_of_form {written : WrittenDirective} {lexemes : List Lexeme}
    (form : DirectiveForm written lexemes) {tokens : List Token} (spells : Spells tokens lexemes)
    {rest : List Token} (ends : NextIsNot .leftParen rest) :
    directive (tokens ++ rest) = .success written.directive rest := by
  cases form with
  | bare name =>
      obtain ⟨mark, _, rfl, markEq, spells⟩ := Spells.cons_iff.mp spells
      obtain ⟨nameToken, _, rfl, nameEq, spells⟩ := Spells.cons_iff.mp spells
      obtain rfl := Spells.nil_iff.mp spells
      have noArguments : optionalArguments name rest = .success Arguments.empty rest := by
        rw [optionalArguments, bind_success (optional_none ends)]
        rfl
      simp only [List.cons_append, List.nil_append]
      rw [directive, bind_success (token_success (Token.kind_of_mark markEq) _ _),
        bind_success (name_success (name?_of_identifier nameEq) _ _), bind_success noArguments]
      rfl
  | @withArguments name bindings _ arguments =>
      obtain ⟨mark, _, rfl, markEq, spells⟩ := Spells.cons_iff.mp spells
      obtain ⟨nameToken, _, rfl, nameEq, spells⟩ := Spells.cons_iff.mp spells
      obtain ⟨opening, _, rfl, openingEq, spells⟩ := Spells.cons_iff.mp spells
      obtain ⟨inside, _, rfl, insideSpells, spells⟩ := Spells.append_iff.mp spells
      obtain ⟨closing, _, rfl, closingEq, spells⟩ := Spells.cons_iff.mp spells
      obtain rfl := Spells.nil_iff.mp spells
      have read : optionalArguments name (opening :: (inside ++ closing :: rest)) =
          .success (Arguments.ofList bindings) rest := by
        rw [optionalArguments, bind_success (optional_some (Token.kind_of_mark openingEq) _)]
        exact arguments_success arguments (Token.kind_of_mark closingEq) rest insideSpells _
      simp only [List.cons_append, List.append_assoc, List.nil_append]
      rw [directive, bind_success (token_success (Token.kind_of_mark markEq) _ _),
        bind_success (name_success (name?_of_identifier nameEq) _ _), bind_success read]
      rfl

theorem exists_mark_of_form {written : WrittenDirective} {lexemes : List Lexeme}
    (form : DirectiveForm written lexemes) {tokens : List Token} (spells : Spells tokens lexemes) :
    ∃ mark others, tokens = mark :: others ∧ mark.kind = .atSign := by
  cases form with
  | bare name =>
      obtain ⟨mark, others, rfl, markEq, -⟩ := Spells.cons_iff.mp spells
      exact ⟨mark, others, rfl, Token.kind_of_mark markEq⟩
  | withArguments name arguments =>
      obtain ⟨mark, others, rfl, markEq, -⟩ := Spells.cons_iff.mp spells
      exact ⟨mark, others, rfl, Token.kind_of_mark markEq⟩

theorem directives_of_sequence {written : List WrittenDirective} {lexemes : List Lexeme}
    (sequence : InSequence DirectiveForm written lexemes) {tokens : List Token}
    (spells : Spells tokens lexemes) {rest : List Token} (noMark : NextIsNot .atSign rest)
    (noParen : NextIsNot .leftParen rest) :
    directives (tokens ++ rest) = .success (written.map WrittenDirective.directive) rest := by
  induction sequence generalizing tokens with
  | nil =>
      obtain rfl := Spells.nil_iff.mp spells
      cases rest with
      | nil =>
          rw [List.nil_append, directives]
          rfl
      | cons first more =>
          rw [List.nil_append, directives, if_neg (noMark first rfl)]
          rfl
  | cons form later ih =>
      obtain ⟨front, back, rfl, frontSpells, backSpells⟩ := Spells.append_iff.mp spells
      have following : NextIsNot .leftParen (back ++ rest) := by
        cases later with
        | nil =>
            obtain rfl := Spells.nil_iff.mp backSpells
            exact noParen
        | cons second _ =>
            obtain ⟨_, _, rfl, secondSpells, -⟩ := Spells.append_iff.mp backSpells
            obtain ⟨mark, others, rfl, markKind⟩ := exists_mark_of_form second secondSpells
            exact nextIsNot_cons (by rw [markKind]; decide) _
      have read := directive_of_form form frontSpells following
      obtain ⟨mark, others, rfl, markKind⟩ := exists_mark_of_form form frontSpells
      rw [List.cons_append] at read
      rw [List.append_assoc, List.cons_append, directives_cons, if_pos markKind, read]
      dsimp only
      rw [ih backSpells]
      rfl

/-- Directives stand for nothing in front of what follows them, or begin with a mark. -/
theorem eq_nil_or_mark {written : List WrittenDirective} {lexemes : List Lexeme}
    (sequence : InSequence DirectiveForm written lexemes) {tokens : List Token}
    (spells : Spells tokens lexemes) :
    tokens = [] ∨ ∃ mark others, tokens = mark :: others ∧ mark.kind = .atSign := by
  cases sequence with
  | nil => exact .inl (Spells.nil_iff.mp spells)
  | cons form _ =>
      obtain ⟨front, back, rfl, frontSpells, -⟩ := Spells.append_iff.mp spells
      obtain ⟨mark, others, rfl, markKind⟩ := exists_mark_of_form form frontSpells
      exact .inr ⟨mark, others ++ back, rfl, markKind⟩

theorem directive_success {item : Directive} {tokens : List Token}
    (spells : Spells tokens item.lexemes) {rest : List Token} (ends : NextIsNot .leftParen rest) :
    directive (tokens ++ rest) = .success item rest := by
  rw [directive_of_form item.form_lexemes spells ends, Directive.directive_written]

theorem directives_success {items : List Directive} {lexemes : List Lexeme}
    (sequence : InSequence DirectiveForm (items.map Directive.written) lexemes)
    {tokens : List Token} (spells : Spells tokens lexemes) {rest : List Token}
    (noMark : NextIsNot .atSign rest) (noParen : NextIsNot .leftParen rest) :
    directives (tokens ++ rest) = .success items rest := by
  have kept : (items.map Directive.written).map WrittenDirective.directive = items := by
    rw [List.map_map]
    exact List.map_id'' Directive.directive_written items
  rw [directives_of_sequence sequence spells noMark noParen, kept]

end Production

namespace Document

theorem attempts_cons (token : Token) (rest : List Token) :
    attempts (token :: rest) =
      match Production.declaration (token :: rest) with
      | .success declaration left => .ok declaration :: attempts left
      | .failure error left => .error error :: attempts (skipToDeclaration left) := by
  rw [attempts]
  cases Production.declaration (token :: rest) <;> rfl

theorem collect_ok {α : Type} (values : List α) : collect (values.map .ok) = .ok values := by
  have failures : (values.map Except.ok).filterMap failed? = [] := by
    rw [List.filterMap_eq_nil_iff]
    intro attempt member
    obtain ⟨value, -, rfl⟩ := List.mem_map.mp member
    rfl
  have successes : (values.map (Except.ok (ε := SyntaxError))).filterMap Except.toOption = values := by
    rw [List.filterMap_map]
    exact List.filterMap_some
  rw [collect, failures, successes]

end Document

end SdlWorkbench
