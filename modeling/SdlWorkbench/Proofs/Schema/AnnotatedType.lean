import SdlWorkbench.Proofs.Directive.Forms
import SdlWorkbench.Proofs.Document.Continuing
import SdlWorkbench.Proofs.Schema.RoundTrip
import SdlWorkbench.Proofs.Token.Coverage
/-!
A directive on a type.

A text behind the name of a type, with empty braces on the lines below, is read as the one directive of
the type exactly when the text alone is decoded as this directive.  No token reaches over the end of
the text, and no directive has a brace in it, so the braces of the type are the last two tokens.
-/

namespace SdlWorkbench

/-- The text of an object type `T` with the given text behind its name and with no members. -/
def annotatedType (text : Text) : Text :=
  "type T ".toList ++ (text ++ '\n' :: "\x7b\n\x7d".toList)

def emptyBraces : List Lexeme :=
  [.mark .leftBrace '\x7b', .mark .rightBrace '\x7d']

/-- Behind what is read the items are those of the remaining text, at their places. -/
theorem Reads.scan {text rest : Text} {lexemes : List Lexeme} (reads : Reads text lexemes rest) :
    ∃ front count, Spells front lexemes ∧ SourceItem.scan text =
      front.map Token.item ++ (SourceItem.scan rest).map (SourceItem.shift count) := by
  obtain ⟨front, start, spells, scanned⟩ := reads.scanFrom 0
  have moved := SourceItem.scanFrom_shift start 0 rest
  rw [Nat.zero_add] at moved
  exact ⟨front, start, spells, by rw [SourceItem.scan, scanned, moved]; rfl⟩

theorem Reads.annotatedType (text : Text) : Reads (annotatedType text)
    [.identifier TypeKind.object.keyword, .identifier (Name.literal "T").text]
    (text ++ '\n' :: "\x7b\n\x7d".toList) :=
  have spaceEnds : ∀ rest, EndsName (' ' :: rest) := endsName_cons (by decide)
  (Reads.identifier (TypeKind.isIdentifier_keyword .object) (spaceEnds _)).append
    (.separator rfl ((Reads.name (Name.literal "T") (spaceEnds _)).append
      (.separator rfl (.done _))))

theorem ofText_annotatedType {text : Text} {tokens : List Token}
    (read : Token.ofText text = .ok tokens) :
    ∃ keyword name behind, Token.ofText (annotatedType text) = .ok (keyword :: name :: behind) ∧
      keyword.toLexeme = .identifier TypeKind.object.keyword ∧
      name.toLexeme = .identifier (Name.literal "T").text ∧
      Spells behind (tokens.map Token.toLexeme ++ emptyBraces) := by
  have bracesRead : Token.ofText "\x7b\n\x7d".toList =
      .ok [⟨.mark .leftBrace '\x7b', ⟨0, 1⟩⟩, ⟨.mark .rightBrace '\x7d', ⟨2, 3⟩⟩] := by
    decide +kernel
  obtain ⟨braces, bracesSpell, together⟩ : ∃ braces, Spells braces emptyBraces ∧
      SourceItem.scan (text ++ '\n' :: "\x7b\n\x7d".toList) = (tokens ++ braces).map Token.item :=
    ⟨_, by rfl, Token.ofText_eq_ok_iff.mp (Token.ofText_append_newline read bracesRead)⟩
  obtain ⟨front, count, spells, scanned⟩ := (Reads.annotatedType text).scan
  obtain ⟨keyword, _, rfl, keywordEq, spells⟩ := Spells.cons_iff.mp spells
  obtain ⟨name, _, rfl, nameEq, spells⟩ := Spells.cons_iff.mp spells
  obtain rfl := Spells.nil_iff.mp spells
  refine ⟨keyword, name, (tokens ++ braces).map (Token.shift count), ?_, keywordEq, nameEq, ?_⟩
  · rw [Token.ofText_eq_ok_iff, scanned, together, List.map_map]
    simp only [List.map_cons, List.map_map]
    rfl
  · rw [← bracesSpell, ← List.map_append, Spells, List.map_map]
    rfl

/-- Text that is no token stays in the text of the type. -/
theorem ofText_annotatedType_error {text : Text} {spans : List Span}
    (refused : Token.ofText text = .error spans) :
    ∃ others, Token.ofText (annotatedType text) = .error others := by
  obtain ⟨front, count, -, scanned⟩ := (Reads.annotatedType text).scan
  have noQuote : '"' ∉ "\x7b\n\x7d".toList := by decide
  obtain ⟨item, member, isNone⟩ := SourceItem.exists_invalid_append_newline
    (Token.ofText_eq_error_iff.mp refused).1 noQuote
  refine ⟨_, Token.ofText_eq_error_iff.mpr ⟨⟨item.shift count, ?_, isNone⟩, rfl⟩⟩
  rw [scanned]
  exact List.mem_append_right _ (List.mem_map_of_mem member)

theorem Parsed.map_eq_success_iff {α β : Type} {f : α → β} {parsed : Parsed α} {result : β}
    {rest : List Token} :
    parsed.map f = .success result rest ↔ ∃ value, parsed = .success value rest ∧ f value = result := by
  cases parsed with
  | success value left => simp [map, and_comm]
  | failure error left => simp [map]

namespace Production

theorem declaration_eq_success_iff {keyword name : Token} {kind : TypeKind} {typeName : Name}
    (keywordEq : keyword.toLexeme = .identifier kind.keyword)
    (nameEq : name.toLexeme = .identifier typeName.text) {behind rest : List Token}
    {item : Declaration Field} :
    declaration (keyword :: name :: behind) = .success item rest ↔
      ∃ annotations middle, directives behind = .success annotations middle ∧
        ∃ brace inside, optional .leftBrace middle = .success brace inside ∧
          ∃ members, body kind brace.isSome inside = .success members rest ∧
            item = ⟨typeName, none, annotations, members⟩ := by
  have isName := Token.isName_of_identifier keywordEq
  rw [declaration, bind_success (description_none isName _), describedDeclaration,
    bind_success (declarationKeyword_success keywordEq _),
    bind_success (name_success (name?_of_identifier nameEq) _ _)]
  simp only [bind_eq_success_iff]
  constructor
  · rintro ⟨annotations, middle, annotated, brace, inside, opened, members, left, read, made⟩
    cases made
    exact ⟨annotations, middle, annotated, brace, inside, opened, members, read, rfl⟩
  · rintro ⟨annotations, middle, annotated, brace, inside, opened, members, read, rfl⟩
    exact ⟨annotations, middle, annotated, brace, inside, opened, members, rest, read, rfl⟩

/-- When nothing is read as fields up to the end there are only closing braces. -/
theorem rightBraces_of_no_fields {inBraces : Bool} {tokens : List Token}
    (read : fields inBraces tokens = .success [] []) : ∀ token ∈ tokens, token.kind = .rightBrace := by
  fun_induction fields inBraces tokens with
  | case1 => exact List.forall_mem_nil _
  | case2 inBraces token rest closes ih => exact List.forall_mem_cons.mpr ⟨closes, ih read⟩
  | case3 => cases read
  | case4 =>
      obtain ⟨later, -, impossible⟩ := Parsed.map_eq_success_iff.mp read
      cases impossible
  | case5 => cases read

theorem directives_eq_nil {tokens rest : List Token}
    (read : directives tokens = .success [] rest) : tokens = rest := by
  cases tokens with
  | nil =>
      rw [directives] at read
      cases read
      rfl
  | cons first more =>
      rw [directives_cons] at read
      split at read
      · split at read
        · obtain ⟨later, -, impossible⟩ := Parsed.map_eq_success_iff.mp read
          cases impossible
        · cases read
      · cases read
        rfl

theorem directives_eq_singleton {tokens rest : List Token} {item : Directive}
    (read : directives tokens = .success [item] rest) : directive tokens = .success item rest := by
  cases tokens with
  | nil =>
      rw [directives] at read
      cases read
  | cons first more =>
      rw [directives_cons] at read
      split at read
      · split at read
        · next found left itemRead =>
            obtain ⟨later, laterRead, same⟩ := Parsed.map_eq_success_iff.mp read
            cases same
            rw [itemRead, directives_eq_nil laterRead]
        · cases read
      · cases read

end Production

theorem Lexeme.identifier_kind_ne_leftBrace (text : Text) : (identifier text).kind ≠ .leftBrace :=
  TokenKind.ne_of_isName (identifier_isName text) rfl

theorem BindingForm.kind_ne_leftBrace {entry : Text × Text} {lexemes : List Lexeme}
    (form : BindingForm entry lexemes) : ∀ lexeme ∈ lexemes, lexeme.kind ≠ .leftBrace := by
  cases form with
  | @binding key text separator value separates denotes =>
      have noBrace : value.kind ≠ .leftBrace := by
        intro isBrace
        rw [Lexeme.argumentValue?, isBrace] at denotes
        cases denotes
      have separatorKind : separator.kind ≠ .leftBrace := by
        rcases separates with rfl | rfl <;> decide
      simp [Lexeme.identifier_kind_ne_leftBrace, separatorKind, noBrace]

theorem DirectiveForm.kind_ne_leftBrace {written : WrittenDirective} {lexemes : List Lexeme}
    (form : DirectiveForm written lexemes) : ∀ lexeme ∈ lexemes, lexeme.kind ≠ .leftBrace := by
  cases form with
  | bare => simp [Lexeme.identifier_kind_ne_leftBrace, Lexeme.mark]
  | @withArguments _ _ bindingLexemes arguments =>
      have inside : ∀ lexeme ∈ bindingLexemes, lexeme.kind ≠ .leftBrace :=
        arguments.forall_mem fun _ _ _ binding => binding.kind_ne_leftBrace
      simp only [List.forall_mem_cons, List.forall_mem_append, Lexeme.mark]
      exact ⟨by decide, Lexeme.identifier_kind_ne_leftBrace _, by decide, inside, by decide, by simp⟩

/-- Behind a directive with empty braces there are no others, so the braces are the last two tokens. -/
theorem DirectiveForm.eq_of_append_braces {written : WrittenDirective} {front lexemes : List Lexeme}
    (form : DirectiveForm written front) {middle : List Token} {brace : Option Token}
    {inside : List Token} (opened : Production.optional .leftBrace middle = .success brace inside)
    (closes : ∀ token ∈ inside, token.kind = .rightBrace)
    (same : front ++ middle.map Token.toLexeme = lexemes ++ emptyBraces) : front = lexemes := by
  have noBrace : .mark .leftBrace '\x7b' ∉ front := fun member =>
    form.kind_ne_leftBrace _ member rfl
  have noneInside : .mark .leftBrace '\x7b' ∉ inside.map Token.toLexeme := by
    intro member
    obtain ⟨token, among, isBrace⟩ := List.mem_map.mp member
    have closing := closes token among
    rw [isBrace] at closing
    cases closing
  cases brace with
  | none =>
      obtain rfl := Production.optional_eq_none opened
      have member : .mark .leftBrace '\x7b' ∈ front ++ middle.map Token.toLexeme := by
        rw [same]
        simp [emptyBraces]
      exact absurd member (by simp [noBrace, noneInside])
  | some opening =>
      obtain ⟨rfl, -⟩ := Production.optional_eq_some opened
      exact ((List.append_cons_inj_of_notMem noBrace noneInside).mp same).1

namespace Production

theorem exists_of_spells_emptyBraces {braces : List Token} (spells : Spells braces emptyBraces) :
    ∃ opening closing, braces = [opening, closing] ∧ opening.kind = .leftBrace ∧
      fields true [closing] = .success [] [] := by
  obtain ⟨opening, _, rfl, openingEq, spells⟩ := Spells.cons_iff.mp spells
  obtain ⟨closing, _, rfl, closingEq, spells⟩ := Spells.cons_iff.mp spells
  obtain rfl := Spells.nil_iff.mp spells
  refine ⟨opening, closing, rfl, Token.kind_of_mark openingEq, ?_⟩
  rw [fields_rightBrace (Token.kind_of_mark closingEq)]
  exact fields_of_endsDeclaration (.inl rfl)

/-- With empty braces behind the name of a type, what stands between is read as the one directive of the
type exactly when it is a form of this directive. -/
theorem annotated_iff {keyword name : Token} {typeName : Name} {behind : List Token}
    {lexemes : List Lexeme} (keywordEq : keyword.toLexeme = .identifier TypeKind.object.keyword)
    (nameEq : name.toLexeme = .identifier typeName.text)
    (spells : Spells behind (lexemes ++ emptyBraces)) (classified : Classified behind)
    (item : Directive) :
    declaration (keyword :: name :: behind) = .success ⟨typeName, none, [item], .object []⟩ [] ↔
      ∃ written, DirectiveForm written lexemes ∧ written.directive = item := by
  rw [declaration_eq_success_iff keywordEq nameEq]
  constructor
  · rintro ⟨annotations, middle, annotated, brace, inside, opened, members, read, made⟩
    cases made
    obtain ⟨fields, fieldsRead, noFields⟩ := Parsed.map_eq_success_iff.mp read
    cases noFields
    have closes := rightBraces_of_no_fields fieldsRead
    obtain ⟨front, frontLexemes, written, rfl, frontSpells, form, rfl⟩ :=
      exists_form_of_directive (directives_eq_singleton annotated) classified
    rw [Spells, List.map_append, frontSpells] at spells
    exact ⟨written, form.eq_of_append_braces opened closes spells ▸ form, rfl⟩
  · rintro ⟨written, form, rfl⟩
    obtain ⟨front, braces, rfl, frontSpells, bracesSpell⟩ := Spells.append_iff.mp spells
    obtain ⟨opening, closing, rfl, isOpening, noFields⟩ := exists_of_spells_emptyBraces bracesSpell
    have one : InSequence DirectiveForm [written] (lexemes ++ []) := .cons form .nil
    rw [List.append_nil] at one
    have annotated := directives_of_sequence one frontSpells
      (nextIsNot_cons (by rw [isOpening]; decide) [closing])
      (nextIsNot_cons (by rw [isOpening]; decide) [closing])
    refine ⟨_, _, annotated, some opening, _, optional_some isOpening _, .object [], ?_, rfl⟩
    exact Parsed.map_eq_success_iff.mpr ⟨[], noFields, rfl⟩

end Production

namespace Document

theorem eq_nil_of_attempts {tokens : List Token} (none : attempts tokens = []) : tokens = [] := by
  cases tokens with
  | nil => rfl
  | cons first rest =>
      rw [attempts_cons] at none
      split at none <;> cases none

theorem ofTokens_eq_singleton_iff {first : Token} {rest : List Token} {item : Declaration Field} :
    ofTokens (first :: rest) = .ok [item] ↔
      Production.declaration (first :: rest) = .success item [] := by
  constructor
  · intro read
    have attempted := collect_eq_ok read
    rw [attempts_cons] at attempted
    split at attempted
    · next found left parsed =>
        obtain ⟨same, ended⟩ := List.cons.inj attempted
        cases same
        rw [parsed, eq_nil_of_attempts ended]
    · cases (List.cons.inj attempted).1
  · intro parsed
    rw [ofTokens, attempts_cons, parsed]
    dsimp only
    rw [attempts]
    exact collect_ok [item]

/-- A text is decoded as a directive exactly when the type with this text behind its name is read with
this directive alone. -/
theorem decode_eq_ok_iff_annotatedType (text : Text) (item : Directive) :
    Directive.decode text = .ok item ↔
      ofText (annotatedType text) = .ok [⟨Name.literal "T", none, [item], .object []⟩] := by
  rw [Directive.decode_eq_ok_iff]
  cases read : Token.ofText text with
  | error spans =>
      obtain ⟨others, refused⟩ := ofText_annotatedType_error read
      simp [ofText, refused]
  | ok tokens =>
      obtain ⟨keyword, name, behind, together, keywordEq, nameEq, spells⟩ :=
        ofText_annotatedType read
      have classified := (Classified.tail (Token.inClass_of_ofText together)).tail
      rw [ofText, together]
      dsimp only
      rw [ofTokens_eq_singleton_iff,
        Production.annotated_iff keywordEq nameEq spells classified]
      simp [Spells]

end Document

namespace Schema

/-- The schema of the object type `T` without description and fields, with one directive. -/
def annotated (directive : Directive) (id : TypeId) : Schema :=
  ⟨[{ name := Name.literal "T", description := none, directives := [directive], body := .object [],
      id := id }]⟩

/-- Both ways to read a directive agree, for every text, valid or not.  A text is decoded as a directive
exactly when, behind the name of a type with empty braces on the lines below, it is read as a schema of
this type alone, whose only annotation is the directive. -/
theorem decode_eq_ok_iff_ofText (text : Text) (directive : Directive) (supply : IdSupply) :
    Directive.decode text = .ok directive ↔
      ∃ id supply', ofText supply (annotatedType text) =
        .ok (annotated directive id, supply') := by
  rw [Document.decode_eq_ok_iff_annotatedType]
  constructor
  · intro read
    refine ⟨supply.fresh.type, supply.advance, ?_⟩
    rw [ofText, read]
    rfl
  · rintro ⟨id, supply', read⟩
    exact document_of_ofText read

end Schema

end SdlWorkbench
