import SdlWorkbench.Token.Scan
/-!
The sequence of pieces of a text, and its tokens.

`SourceItem.scan` covers a text: between two neighbouring items, before the first and after the last
there is only ignored text.  `Token.ofText` gives the tokens when every item is one, and otherwise the
spans of all items that are none.
-/

namespace SdlWorkbench

theorem takeIgnored_append (inComment : Bool) (text : Text) :
    (takeIgnored inComment text).1 ++ (takeIgnored inComment text).2 = text := by
  induction text generalizing inComment with
  | nil =>
      rfl
  | cons c rest inductionHypothesis =>
      simp only [takeIgnored]
      split
      · simp [inductionHypothesis]
      · rfl

theorem takeIgnored_length_le (inComment : Bool) (text : Text) :
    (takeIgnored inComment text).2.length ≤ text.length := by
  have whole := congrArg List.length (takeIgnored_append inComment text)
  simp only [List.length_append] at whole
  omega

theorem takeQuoted_append (quote : Char) (text : Text) :
    (takeQuoted quote text).1 ++ (takeQuoted quote text).2 = text := by
  fun_induction takeQuoted quote text <;> simp_all

theorem takeBlock_append (text : Text) : (takeBlock text).1 ++ (takeBlock text).2 = text := by
  fun_induction takeBlock text <;> simp_all

theorem takeDigits_append (text : Text) : (takeDigits text).1 ++ (takeDigits text).2 = text := by
  simp [takeDigits]

theorem takeSign_append (text : Text) : (takeSign text).1 ++ (takeSign text).2 = text := by
  fun_cases takeSign text <;> simp_all

theorem takeExponent_append (text : Text) :
    (takeExponent text).1 ++ (takeExponent text).2 = text := by
  cases text with
  | nil => rfl
  | cons mark rest =>
      simp only [takeExponent]
      split
      · simp [takeDigits_append, takeSign_append]
      · rfl

theorem takeFraction_append (text : Text) :
    (takeFraction text).1 ++ (takeFraction text).2 = text := by
  cases text with
  | nil => rfl
  | cons point rest =>
      simp only [takeFraction]
      split
      · simp [takeDigits_append, takeExponent_append]
      · rfl

namespace Piece

theorem block_append (afterQuotes : Text) :
    (block afterQuotes).text ++ (block afterQuotes).rest = '"' :: '"' :: '"' :: afterQuotes := by
  have whole := takeBlock_append afterQuotes
  simp only [block]
  split
  · next closed =>
      rw [closed] at whole
      simp [whole]
  · simp [whole]

theorem quoted_append (kind : TokenKind) (quote : Char) (afterQuote : Text) :
    (quoted kind quote afterQuote).text ++ (quoted kind quote afterQuote).rest =
      quote :: afterQuote := by
  have whole := takeQuoted_append quote afterQuote
  simp only [quoted]
  split
  · next atEnd =>
      rw [atEnd, List.append_nil] at whole
      simp [whole]
  · next c rest stopped =>
      rw [stopped] at whole
      split
      · next isQuote =>
          subst isQuote
          simp [whole]
      · simp [whole]

theorem number_append (sign unsigned : Text) :
    (number sign unsigned).text ++ (number sign unsigned).rest = sign ++ unsigned := by
  simp [number, takeFraction_append, takeDigits_append]

theorem next_append (c : Char) (rest : Text) :
    (next c rest).text ++ (next c rest).rest = c :: rest := by
  unfold next
  split
  · next isQuote =>
      subst isQuote
      split
      · exact block_append _
      · exact quoted_append _ _ _
  · split
    · next isQuote =>
        subst isQuote
        exact quoted_append _ _ _
    · split
      · next isSign =>
          have isMinus : c = '-' := by
            simp only [Bool.and_eq_true, decide_eq_true_eq] at isSign
            exact isSign.1
          subst isMinus
          simp [number_append]
      · split
        · simp [number_append]
        · split
          · simp
          · rfl

theorem block_text_ne_nil (afterQuotes : Text) : (block afterQuotes).text ≠ [] := by
  simp only [block]
  split <;> simp

theorem quoted_text_ne_nil (kind : TokenKind) (quote : Char) (afterQuote : Text) :
    (quoted kind quote afterQuote).text ≠ [] := by
  simp only [quoted]
  split
  · simp
  · split <;> simp

theorem next_text_ne_nil (c : Char) (rest : Text) : (next c rest).text ≠ [] := by
  unfold next
  split
  · split
    · exact block_text_ne_nil _
    · exact quoted_text_ne_nil _ _ _
  · split
    · exact quoted_text_ne_nil _ _ _
    · split
      · simp [number]
      · split
        · next isDigit => simp [number, takeDigits, isDigit]
        · split <;> simp

theorem next_rest_length_lt (c : Char) (rest : Text) :
    (next c rest).rest.length < (c :: rest).length := by
  have whole := congrArg List.length (next_append c rest)
  have positive := List.length_pos_iff.mpr (next_text_ne_nil c rest)
  simp only [List.length_append] at whole
  omega

end Piece

/-- A piece of a source text at its place: a token, or text that is no token. -/
structure SourceItem where
  kind : Option TokenKind
  text : Text
  span : Span
deriving DecidableEq

namespace SourceItem

/-- The items of a text whose first character is at the byte `offset`. -/
def scanFrom (offset : Nat) (text : Text) : List SourceItem :=
  let start := offset + (takeIgnored false text).1.utf8Length
  match _started : (takeIgnored false text).2 with
  | [] => []
  | c :: rest =>
      let piece := Piece.next c rest
      let stop := start + piece.text.utf8Length
      ⟨piece.kind, piece.text, ⟨start, stop⟩⟩ :: scanFrom stop piece.rest
termination_by text.length
decreasing_by
  have shorter := Piece.next_rest_length_lt c rest
  have ignored := takeIgnored_length_le false text
  rw [_started] at ignored
  omega

def scan (text : Text) : List SourceItem :=
  scanFrom 0 text

def describe (item : SourceItem) : String :=
  match item.kind with
  | some kind => kind.describe
  | none => "invalid"

def token? (item : SourceItem) : Option Token :=
  item.kind.map fun kind => { kind := kind, text := item.text, span := item.span }

def invalidSpan? (item : SourceItem) : Option Span :=
  match item.kind with
  | some _ => none
  | none => some item.span

end SourceItem

/-- The tokens of a text, or the spans of everything in it that is no token. -/
def Token.ofText (text : Text) : Except (List Span) (List Token) :=
  let items := SourceItem.scan text
  match items.filterMap SourceItem.invalidSpan? with
  | [] => .ok (items.filterMap SourceItem.token?)
  | spans => .error spans

end SdlWorkbench
