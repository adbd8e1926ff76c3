import SdlWorkbench.Token.Lexer
import SdlWorkbench.Text.Quoted
/-!
Reading lexemes off the front of a text.

`Reads text lexemes rest` says that `text` starts with the given lexemes and that `rest` comes after
them.  The rest is in view throughout, so that a front part is taken for a token only where the longest
match ends, and readings can be put one after the other.
-/

namespace SdlWorkbench

inductive Reads : Text → List Lexeme → Text → Prop where
  | done (text : Text) : Reads text [] text
  | separator {c : Char} {text rest : Text} {lexemes : List Lexeme}
      (separates : isSeparator c = true) (later : Reads text lexemes rest) :
      Reads (c :: text) lexemes rest
  | token {c : Char} {text left rest : Text} {lexeme : Lexeme} {lexemes : List Lexeme}
      (next : Piece.next c text = ⟨some lexeme.kind, lexeme.text, left⟩)
      (later : Reads left lexemes rest) : Reads (c :: text) (lexeme :: lexemes) rest

theorem Reads.append {text middle rest : Text} {first second : List Lexeme}
    (front : Reads text first middle) (back : Reads middle second rest) :
    Reads text (first ++ second) rest := by
  induction front with
  | done => exact back
  | separator separates _ ih => exact .separator separates (ih back)
  | token next _ ih => exact .token next (ih back)

theorem Reads.single {c : Char} {text rest : Text} {lexeme : Lexeme}
    (next : Piece.next c text = ⟨some lexeme.kind, lexeme.text, rest⟩) :
    Reads (c :: text) [lexeme] rest :=
  .token next (.done rest)

namespace SourceItem

theorem scanFrom_of_nil {text : Text} (offset : Nat) (ignored : (takeIgnored false text).2 = []) :
    scanFrom offset text = [] := by
  rw [scanFrom]
  split
  · rfl
  · next started =>
      rw [ignored] at started
      cases started

theorem scanFrom_of_cons {text rest : Text} {c : Char} (offset : Nat)
    (started : (takeIgnored false text).2 = c :: rest) :
    scanFrom offset text =
      ⟨(Piece.next c rest).kind, (Piece.next c rest).text,
        ⟨offset + (takeIgnored false text).1.utf8Length,
          offset + (takeIgnored false text).1.utf8Length + (Piece.next c rest).text.utf8Length⟩⟩ ::
        scanFrom (offset + (takeIgnored false text).1.utf8Length +
          (Piece.next c rest).text.utf8Length) (Piece.next c rest).rest := by
  rw [scanFrom]
  split
  · next ended =>
      rw [started] at ended
      cases ended
  · next d left other =>
      rw [started, List.cons.injEq] at other
      obtain ⟨rfl, rfl⟩ := other
      rfl

end SourceItem

theorem takeIgnored_separator {c : Char} (separates : isSeparator c = true) (text : Text) :
    takeIgnored false (c :: text) =
      (c :: (takeIgnored false text).1, (takeIgnored false text).2) := by
  have noComment : c ≠ '#' := by
    rintro rfl
    revert separates
    decide
  simp [takeIgnored, separates, noComment]

/-- What is ignored in front of a text only moves its items. -/
theorem SourceItem.scanFrom_of_ignored {whole ignored text : Text}
    (skipped : takeIgnored false whole =
      (ignored ++ (takeIgnored false text).1, (takeIgnored false text).2)) (offset : Nat) :
    scanFrom offset whole = scanFrom (offset + ignored.utf8Length) text := by
  cases started : (takeIgnored false text).2 with
  | nil => rw [scanFrom_of_nil offset (by rw [skipped, started]), scanFrom_of_nil _ started]
  | cons d rest =>
      rw [scanFrom_of_cons offset (by rw [skipped, started]), scanFrom_of_cons _ started, skipped]
      simp only [Text.utf8Length_append, Nat.add_assoc]

theorem SourceItem.scanFrom_separator {c : Char} (separates : isSeparator c = true)
    (offset : Nat) (text : Text) :
    scanFrom offset (c :: text) = scanFrom (offset + c.utf8Size) text :=
  @scanFrom_of_ignored (c :: text) [c] text (takeIgnored_separator separates text) offset

/-- What is ignored is no token: a token never starts with a separator or a comment mark. -/
theorem takeIgnored_of_next {c : Char} {text : Text} {kind : TokenKind} {piece left : Text}
    (next : Piece.next c text = ⟨some kind, piece, left⟩) :
    takeIgnored false (c :: text) = ([], c :: text) := by
  have visible : ¬ (isSeparator c = true ∨ c = '#') := by
    intro ignorable
    have noKind : (Piece.next c text).kind = none := by
      simp only [isSeparator, Bool.or_eq_true, decide_eq_true_eq] at ignorable
      rcases ignorable with ((((((rfl | rfl) | rfl) | rfl) | rfl) | rfl) | rfl) | rfl <;> rfl
    rw [next] at noKind
    cases noKind
  rw [not_or] at visible
  simp [takeIgnored, visible.1, visible.2]

def Token.item (token : Token) : SourceItem :=
  ⟨some token.kind, token.text, token.span⟩

theorem Reads.scanFrom {text rest : Text} {lexemes : List Lexeme} (reads : Reads text lexemes rest)
    (offset : Nat) : ∃ (tokens : List Token) (start : Nat),
      tokens.map Token.toLexeme = lexemes ∧ SourceItem.scanFrom offset text =
        tokens.map Token.item ++ SourceItem.scanFrom start rest := by
  induction reads generalizing offset with
  | done text => exact ⟨[], offset, rfl, rfl⟩
  | separator separates _ ih =>
      obtain ⟨tokens, start, same, scanned⟩ := ih (offset + _)
      exact ⟨tokens, start, same, by rw [SourceItem.scanFrom_separator separates, scanned]⟩
  | @token c text left rest lexeme lexemes next _ ih =>
      obtain ⟨tokens, start, same, scanned⟩ := ih (offset + lexeme.text.utf8Length)
      have started := takeIgnored_of_next next
      refine ⟨{ lexeme with span := ⟨offset, offset + lexeme.text.utf8Length⟩ } :: tokens, start,
        ?_, ?_⟩
      · rw [List.map_cons, same]
      · rw [SourceItem.scanFrom_of_cons offset (by rw [started]), started, next]
        simp only [Text.utf8Length, Nat.add_zero, scanned]
        rfl

private theorem filterMap_invalidSpan?_item (tokens : List Token) :
    (tokens.map Token.item).filterMap SourceItem.invalidSpan? = [] := by
  induction tokens with
  | nil => rfl
  | cons token rest ih =>
      rw [List.map_cons, List.filterMap_cons, ih]
      rfl

private theorem filterMap_token?_item (tokens : List Token) :
    (tokens.map Token.item).filterMap SourceItem.token? = tokens := by
  induction tokens with
  | nil => rfl
  | cons token rest ih =>
      rw [List.map_cons, List.filterMap_cons, ih]
      rfl

private theorem eq_map_item_of_invalidSpan? {items : List SourceItem}
    (valid : items.filterMap SourceItem.invalidSpan? = []) :
    items = (items.filterMap SourceItem.token?).map Token.item := by
  induction items with
  | nil => rfl
  | cons item rest ih =>
      obtain ⟨kind, text, span⟩ := item
      cases kind with
      | none => cases valid
      | some kind =>
          have later := ih valid
          rw [List.filterMap_cons]
          dsimp only [SourceItem.token?, Option.map_some]
          rw [List.map_cons, ← later]
          rfl

theorem Token.ofText_eq_ok_iff {text : Text} {tokens : List Token} :
    ofText text = .ok tokens ↔ SourceItem.scan text = tokens.map Token.item := by
  constructor
  · intro read
    rw [ofText] at read
    split at read
    · next valid =>
        cases read
        exact eq_map_item_of_invalidSpan? valid
    · cases read
  · intro scanned
    simp only [ofText, scanned, filterMap_invalidSpan?_item, filterMap_token?_item]

theorem Token.item_mem_scan {text : Text} {tokens : List Token} (read : ofText text = .ok tokens)
    {token : Token} (member : token ∈ tokens) : token.item ∈ SourceItem.scan text := by
  rw [ofText_eq_ok_iff.mp read]
  exact List.mem_map_of_mem member

/-- A text that is read to its end has just these tokens. -/
theorem Reads.ofText {text : Text} {lexemes : List Lexeme} (reads : Reads text lexemes []) :
    ∃ tokens, Token.ofText text = .ok tokens ∧ tokens.map Token.toLexeme = lexemes := by
  obtain ⟨tokens, start, same, scanned⟩ := reads.scanFrom 0
  rw [SourceItem.scanFrom_of_nil start rfl, List.append_nil] at scanned
  exact ⟨tokens, Token.ofText_eq_ok_iff.mpr scanned, same⟩

end SdlWorkbench
