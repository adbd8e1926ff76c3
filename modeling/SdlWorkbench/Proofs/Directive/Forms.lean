import SdlWorkbench.Proofs.Directive.Codec
import SdlWorkbench.Proofs.Token.Classified
/-!
What is read as a directive.

The tokens that are read as a directive are one of the forms of a written directive, and every form is
read.  So a text is decoded exactly when its tokens are such a form, and the values of the directive are
denoted by tokens of the text.
-/

namespace SdlWorkbench

def Classified (tokens : List Token) : Prop :=
  ∀ token ∈ tokens, token.InClass

namespace Classified

variable {first : Token} {front rest : List Token}

theorem head (classified : Classified (first :: rest)) : first.InClass :=
  classified first List.mem_cons_self

theorem tail (classified : Classified (first :: rest)) : Classified rest :=
  fun token member => classified token (List.mem_cons_of_mem first member)

end Classified

namespace Production

variable {tokens rest : List Token}

theorem exists_form_of_arguments {directive : Name} {bound result : Arguments}
    (read : arguments directive bound tokens = .success result rest)
    (classified : Classified tokens) :
    ∃ inside close bindings lexemes, tokens = inside ++ close :: rest ∧
      close.toLexeme = .mark .rightParen ')' ∧ Spells inside lexemes ∧
      InSequence BindingForm bindings lexemes ∧
      result = bindings.foldl (fun arguments entry => arguments.insert entry.1 entry.2) bound := by
  fun_induction arguments directive bound tokens with
  | case2 bound close afterClose closes =>
      cases read
      have isMark : close.toLexeme = .mark close.kind ')' :=
        classified.head.eq_mark (by rw [closes]; rfl)
      rw [closes] at isMark
      exact ⟨[], close, [], [], rfl, isMark, rfl, .nil, rfl⟩
  | case7 bound key _ isName separator isSeparator value behind text denotes ih =>
      obtain ⟨inside, close, bindings, lexemes, rfl, closes, spells, sequence, resultEq⟩ :=
        ih read classified.tail.tail.tail
      have keyEq : key.toLexeme = .identifier key.text :=
        classified.head.eq_identifier (by simpa using isName)
      have separates : separator.toLexeme = .mark .colon ':' ∨
          separator.toLexeme = .mark .equals '=' := by
        by_cases isColon : separator.kind = .colon
        · have isMark : separator.toLexeme = .mark separator.kind ':' :=
            classified.tail.head.eq_mark (by rw [isColon]; rfl)
          exact .inl (isColon ▸ isMark)
        · have isEquals : separator.kind = .equals := by simpa [isColon] using isSeparator
          have isMark : separator.toLexeme = .mark separator.kind '=' :=
            classified.tail.head.eq_mark (by rw [isEquals]; rfl)
          exact .inr (isEquals ▸ isMark)
      refine ⟨key :: separator :: value :: inside, close, (key.text, text) :: bindings,
        [.identifier key.text, separator.toLexeme, value.toLexeme] ++ lexemes, rfl, closes, ?_,
        .cons (.binding separates denotes) sequence, resultEq⟩
      rw [Spells, List.map_cons, List.map_cons, List.map_cons, keyEq, spells]
      rfl
  | _ => cases read

theorem exists_form_of_directive {result : Directive}
    (read : directive tokens = .success result rest) (classified : Classified tokens) :
    ∃ front lexemes written, tokens = front ++ rest ∧ Spells front lexemes ∧
      DirectiveForm written lexemes ∧ written.directive = result := by
  simp only [directive, bind_eq_success_iff] at read
  obtain ⟨mark, afterMark, marked, name, afterName, named, arguments, left, listed, made⟩ := read
  cases made
  obtain ⟨rfl, isMark⟩ := token_eq_success marked
  obtain ⟨nameToken, rfl, nameEq⟩ := name_eq_success named
  have markEq : mark.toLexeme = .mark .atSign '@' :=
    isMark ▸ classified.head.eq_mark (by rw [isMark]; rfl)
  have nameSpelled : nameToken.toLexeme = .identifier name.text :=
    classified.tail.head.eq_identifier_of_name? nameEq
  rw [optionalArguments, bind_eq_success_iff] at listed
  obtain ⟨opening, middle, opened, listed⟩ := listed
  cases opening with
  | none =>
      obtain rfl := optional_eq_none opened
      cases listed
      have spells : Spells [mark, nameToken] [.mark .atSign '@', .identifier name.text] := by
        simp only [Spells, List.map_cons, List.map_nil, markEq, nameSpelled]
      exact ⟨[mark, nameToken], _, _, rfl, spells, .bare name, rfl⟩
  | some parenthesis =>
      obtain ⟨rfl, isOpening⟩ := optional_eq_some opened
      have openingEq : parenthesis.toLexeme = .mark .leftParen '(' :=
        isOpening ▸ classified.tail.tail.head.eq_mark (by rw [isOpening]; rfl)
      obtain ⟨inside, close, bindings, lexemes, rfl, closeEq, spells, sequence, rfl⟩ :=
        exists_form_of_arguments listed classified.tail.tail.tail
      refine ⟨mark :: nameToken :: parenthesis :: (inside ++ [close]), _, _, by simp, ?_,
        .withArguments name sequence, rfl⟩
      rw [Spells] at spells
      simp only [Spells, List.map_cons, List.map_append, List.map_nil, markEq, nameSpelled,
        openingEq, closeEq, spells]

end Production

namespace Directive

/-- A text is decoded as a directive exactly when its tokens are one of the directive's forms. -/
theorem decode_eq_ok_iff {text : Text} {directive : Directive} :
    decode text = .ok directive ↔ ∃ tokens lexemes written, Token.ofText text = .ok tokens ∧
      Spells tokens lexemes ∧ DirectiveForm written lexemes ∧ written.directive = directive := by
  constructor
  · intro decoded
    rw [decode] at decoded
    cases lexed : Token.ofText text with
    | error spans =>
        rw [lexed] at decoded
        cases decoded
    | ok tokens =>
        rw [lexed] at decoded
        dsimp only at decoded
        rw [ofTokens] at decoded
        split at decoded
        · cases decoded
        · next found read =>
            cases decoded
            obtain ⟨front, lexemes, written, rfl, spells, form, made⟩ :=
              Production.exists_form_of_directive read (Token.inClass_of_ofText lexed)
            exact ⟨front ++ [], lexemes, written, rfl, by simpa using spells, form, made⟩
        · cases decoded
  · rintro ⟨tokens, lexemes, written, lexed, spells, form, rfl⟩
    have endsDirective : NextIsNot .leftParen [] := by
      intro token impossible
      cases impossible
    have read := Production.directive_of_form form spells endsDirective
    rw [List.append_nil] at read
    rw [decode, lexed]
    dsimp only
    rw [ofTokens, read]
    rfl

end Directive

end SdlWorkbench
