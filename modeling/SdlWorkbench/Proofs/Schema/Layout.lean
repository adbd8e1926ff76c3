import SdlWorkbench.Proofs.Document.Modular
import SdlWorkbench.Proofs.Schema.RoundTrip
import SdlWorkbench.Proofs.Token.Layout
import Mathlib.Data.List.Forall2
/-!
Layout is insignificant.

Two layouts of the same lexemes have the same tokens at other places.  Reading does not look at places,
so both texts say the same declarations, or both are refused with the same errors at other places.
-/

namespace SdlWorkbench

namespace Relocation

def forget : Relocation where
  move := fun _ => ⟨0, 0⟩
  through := fun _ _ => rfl
  upTo := fun _ _ => rfl
  after := fun _ => rfl

end Relocation

namespace SyntaxError

def placedAt (span : Span) : SyntaxError → SyntaxError
  | invalidToken _ => invalidToken span
  | unexpectedToken expected found _ => unexpectedToken expected found span
  | unexpectedEnd expected => unexpectedEnd expected
  | unsupportedDeclaration keyword _ => unsupportedDeclaration keyword span
  | missingFieldType field _ => missingFieldType field span
  | malformedArgument directive fault _ => malformedArgument directive fault span

/-- The second error is the first at another place, so that their messages differ in the span at most. -/
def SameButPlace (first second : SyntaxError) : Prop :=
  ∃ span, second = first.placedAt span

theorem placedAt_relocate (relocation : Relocation) (span : Span) (error : SyntaxError) :
    (error.relocate relocation).placedAt span = error.placedAt span := by
  cases error <;> rfl

theorem exists_placedAt_self (error : SyntaxError) : ∃ span, error.placedAt span = error := by
  cases error with
  | unexpectedEnd expected => exact ⟨⟨0, 0⟩, rfl⟩
  | invalidToken span => exact ⟨span, rfl⟩
  | unexpectedToken expected found span => exact ⟨span, rfl⟩
  | unsupportedDeclaration keyword span => exact ⟨span, rfl⟩
  | missingFieldType field span => exact ⟨span, rfl⟩
  | malformedArgument directive fault span => exact ⟨span, rfl⟩

theorem sameButPlace_of_relocate {relocation : Relocation} {first second : SyntaxError}
    (same : first.relocate relocation = second.relocate relocation) : SameButPlace first second := by
  obtain ⟨span, atPlace⟩ := second.exists_placedAt_self
  exact ⟨span, by rw [← placedAt_relocate relocation, same, placedAt_relocate, atPlace]⟩

theorem forall₂_sameButPlace_of_relocate {relocation : Relocation} {first second : List SyntaxError}
    (same : first.map (relocate relocation) = second.map (relocate relocation)) :
    List.Forall₂ SameButPlace first second := by
  rw [← List.forall₂_eq_eq_eq, List.forall₂_map_left_iff, List.forall₂_map_right_iff] at same
  exact same.imp fun _ _ => sameButPlace_of_relocate

end SyntaxError

theorem Token.map_forget_eq {first second : List Token}
    (same : first.map Token.toLexeme = second.map Token.toLexeme) :
    first.map (Token.relocate Relocation.forget) = second.map (Token.relocate Relocation.forget) := by
  have places : ∀ tokens : List Token, tokens.map (Token.relocate Relocation.forget) =
      (tokens.map Token.toLexeme).map fun lexeme => { lexeme with span := ⟨0, 0⟩ } := by
    intro tokens
    rw [List.map_map]
    rfl
  rw [places, same, ← places]

namespace Schema

/-- Two readings that agree in all but ids and places. -/
inductive ReadAlike : Except (List SyntaxError) (Schema × IdSupply) →
    Except (List SyntaxError) (Schema × IdSupply) → Prop where
  | accepted {first second : Schema} {supply supply' : IdSupply}
      (same : first.structurallyEq second = true) :
      ReadAlike (.ok (first, supply)) (.ok (second, supply'))
  | refused {first second : List SyntaxError}
      (same : List.Forall₂ SyntaxError.SameButPlace first second) :
      ReadAlike (.error first) (.error second)

theorem readAlike_of_relocate {relocation : Relocation} {first second : Text}
    (same : (Document.ofText first).mapError (List.map (SyntaxError.relocate relocation)) =
      (Document.ofText second).mapError (List.map (SyntaxError.relocate relocation)))
    (supply supply' : IdSupply) : ReadAlike (ofText supply first) (ofText supply' second) := by
  rw [ofText, ofText]
  cases firstRead : Document.ofText first with
  | ok document =>
      cases secondRead : Document.ofText second with
      | ok other =>
          rw [firstRead, secondRead] at same
          obtain rfl : document = other := Except.ok.inj same
          refine .accepted ?_
          exact (structurallyEq_iff _ _).mpr ((Document.document_identify document supply).trans
            (Document.document_identify document supply').symm)
      | error errors =>
          rw [firstRead, secondRead] at same
          cases same
  | error errors =>
      cases secondRead : Document.ofText second with
      | ok other =>
          rw [firstRead, secondRead] at same
          cases same
      | error others =>
          rw [firstRead, secondRead] at same
          exact .refused (SyntaxError.forall₂_sameButPlace_of_relocate (Except.error.inj same))

/-- The tokens of a layout are its lexemes, and whether and as what it is read depends on them alone. -/
theorem ofText_layout {first second : Layout} (firstSound : first.Sound) (secondSound : second.Sound)
    (inClass : ∀ lexeme ∈ first.lexemes, lexeme.InClass) (same : second.lexemes = first.lexemes)
    (supply supply' : IdSupply) :
    Token.ofText first.text = .ok first.tokens ∧
      first.tokens.map Token.toLexeme = first.lexemes ∧
      ReadAlike (ofText supply first.text) (ofText supply' second.text) := by
  have firstTokens := Layout.ofText_text firstSound inClass
  have secondTokens := Layout.ofText_text secondSound (same ▸ inClass)
  have sameLexemes : first.tokens.map Token.toLexeme = second.tokens.map Token.toLexeme := by
    rw [Layout.toLexeme_tokens, Layout.toLexeme_tokens, same]
  have alike : (Document.ofText first.text).mapError (List.map (SyntaxError.relocate .forget)) =
      (Document.ofText second.text).mapError (List.map (SyntaxError.relocate .forget)) := by
    rw [Document.ofText, firstTokens, Document.ofText, secondTokens]
    dsimp only
    rw [← Document.ofTokens_relocate, ← Document.ofTokens_relocate, Token.map_forget_eq sameLexemes]
  exact ⟨firstTokens, first.toLexeme_tokens, readAlike_of_relocate alike supply supply'⟩

/-- A directive with a string that looks like ignored text and with a number, and a field that has a
block string for its type. -/
def oddLexemes : List Lexeme :=
  [.identifier "type".toList, .identifier "A".toList, .mark .atSign '@', .identifier "d".toList,
    .mark .leftParen '(', .identifier "k".toList, .mark .colon ':',
    ⟨.stringLiteral, "\", # \\\"\"".toList⟩, .identifier "l".toList, .mark .equals '=',
    ⟨.float, "-1.5e3".toList⟩, .mark .rightParen ')', .identifier "x".toList, .mark .colon ':',
    .block "\"\\".toList]

theorem oddLexemes_inClass : ∀ lexeme ∈ oddLexemes, lexeme.InClass := by
  have string : FitsQuotes '"' ", # \\\"".toList :=
    .char (by decide) (by decide) (by decide) <| .char (by decide) (by decide) (by decide) <|
      .char (by decide) (by decide) (by decide) <| .char (by decide) (by decide) (by decide) <|
      .escape (by decide) .nil
  have one : IsNumeral ['1'] := ⟨List.cons_ne_nil _ _, List.forall_mem_singleton.mpr rfl⟩
  have five : IsNumeral ['5'] := ⟨List.cons_ne_nil _ _, List.forall_mem_singleton.mpr rfl⟩
  have three : IsNumeral ['3'] := ⟨List.cons_ne_nil _ _, List.forall_mem_singleton.mpr rfl⟩
  have float : Lexeme.InClass ⟨.float, "-1.5e3".toList⟩ :=
    .float (.inr rfl) one five (.some (.inl rfl) (.inl rfl) three)
  simp only [oddLexemes, List.forall_mem_cons]
  exact ⟨.identifier rfl, .identifier rfl, .mark rfl, .identifier rfl, .mark rfl, .identifier rfl,
    .mark rfl, .stringLiteral string, .identifier rfl, .mark rfl, float, .mark rfl, .identifier rfl,
    .mark rfl, .block ⟨by decide, by decide⟩, List.forall_mem_nil _⟩

def spacedLayout : Layout :=
  ⟨oddLexemes.map fun lexeme => ([' '], lexeme), []⟩

def commentedLayout : Layout :=
  ⟨oddLexemes.map fun lexeme => ("\ufeff,\t# \"\"\" type\r\n".toList, lexeme), ['\r', '\x0c']⟩

theorem spacedLayout_commentedLayout :
    Token.ofText spacedLayout.text = .ok spacedLayout.tokens ∧
      spacedLayout.tokens.map Token.toLexeme = oddLexemes ∧
      ReadAlike (ofText ⟨0⟩ spacedLayout.text) (ofText ⟨0⟩ commentedLayout.text) := by
  have firstSound : spacedLayout.Sound := ⟨by decide, by decide, by decide⟩
  have secondSound : commentedLayout.Sound := ⟨by decide, by decide, by decide⟩
  exact ofText_layout firstSound secondSound oddLexemes_inClass rfl ⟨0⟩ ⟨0⟩

end Schema

end SdlWorkbench
