import SdlWorkbench.Proofs.Token.Lexeme
/-!
The texts of tokens.

Every item of a text is a piece of it, so what holds of the kind and the text of every piece holds of
every item.  In particular the text of a token that is a name is an identifier.
-/

namespace SdlWorkbench

theorem SourceItem.forall_mem_scanFrom {good : Option TokenKind → Text → Prop}
    (pieces : ∀ c rest, good (Piece.next c rest).kind (Piece.next c rest).text) (offset : Nat)
    (text : Text) : ∀ item ∈ scanFrom offset text, good item.kind item.text := by
  fun_induction scanFrom offset text with
  | case1 =>
      intro item impossible
      cases impossible
  | case2 offset text start c rest started piece stop ih =>
      exact List.forall_mem_cons.mpr ⟨pieces c rest, ih⟩

def NamesIdentifier (kind : Option TokenKind) (text : Text) : Prop :=
  ∀ found, kind = some found → found.isName = true → isIdentifier text = true

namespace Piece

theorem block_not_isName {afterQuotes : Text} {kind : TokenKind}
    (isKind : (block afterQuotes).kind = some kind) : kind.isName = false := by
  simp only [block] at isKind
  split at isKind
  · cases isKind
    rfl
  · cases isKind

theorem quoted_kind {kind found : TokenKind} {quote : Char} {afterQuote : Text}
    (isKind : (quoted kind quote afterQuote).kind = some found) : found = kind := by
  simp only [quoted] at isKind
  split at isKind
  · cases isKind
  · split at isKind
    · cases isKind
      rfl
    · cases isKind

theorem number_not_isName {sign unsigned : Text} {kind : TokenKind}
    (isKind : (number sign unsigned).kind = some kind) : kind.isName = false := by
  simp only [number] at isKind
  cases isKind
  split <;> rfl

theorem ofPunctuation?_not_isName {c : Char} {kind : TokenKind}
    (isKind : TokenKind.ofPunctuation? c = some kind) : kind.isName = false := by
  unfold TokenKind.ofPunctuation? at isKind
  split at isKind <;> cases isKind <;> rfl

/-- Only the start of a name begins a piece whose kind is that of a name. -/
theorem isNameStart_of_isName {c : Char} {rest : Text} {kind : TokenKind}
    (isKind : (next c rest).kind = some kind) (isName : kind.isName = true) :
    isNameStart c = true := by
  by_contra other
  have notName : kind.isName = false := by
    unfold next at isKind
    split at isKind
    · split at isKind
      · exact block_not_isName isKind
      · obtain rfl := quoted_kind isKind
        rfl
    · split at isKind
      · obtain rfl := quoted_kind isKind
        rfl
      · split at isKind
        · exact number_not_isName isKind
        · split at isKind
          · exact number_not_isName isKind
          · exact ofPunctuation?_not_isName isKind
  rw [notName] at isName
  cases isName

theorem next_namesIdentifier (c : Char) (rest : Text) :
    NamesIdentifier (next c rest).kind (next c rest).text := by
  intro kind isKind isName
  have starts := isNameStart_of_isName isKind isName
  rw [next_of_isNameStart starts, isIdentifier, starts, Bool.true_and]
  exact List.all_takeWhile

end Piece

theorem Token.isIdentifier_of_isName {text : Text} {tokens : List Token}
    (read : Token.ofText text = .ok tokens) :
    ∀ token ∈ tokens, token.kind.isName = true → isIdentifier token.text = true := by
  intro token member isName
  have names := SourceItem.forall_mem_scanFrom Piece.next_namesIdentifier 0 text
  exact names token.item (Token.item_mem_scan read member) token.kind rfl isName

end SdlWorkbench
