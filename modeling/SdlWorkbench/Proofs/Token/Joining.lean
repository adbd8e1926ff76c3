import SdlWorkbench.Proofs.Token.Reading
import Mathlib.Data.List.Basic
/-!
Tokens of two texts with a line feed between them.

A line feed ends every token but a block string, and it ends a comment.  So the items of a text whose
items are all tokens are not changed by a further line, and the items of that line are only moved.
-/

namespace SdlWorkbench

theorem takeQuoted_append_of_stopped {quote : Char} (notEscape : quote ≠ '\\') (more : Text)
    {text taken rest : Text} (stopped : takeQuoted quote text = (taken, quote :: rest)) :
    takeQuoted quote (text ++ more) = (taken, quote :: (rest ++ more)) := by
  fun_induction takeQuoted quote text generalizing taken with
  | case1 => cases stopped
  | case2 =>
      cases stopped
      exact absurd rfl notEscape
  | case3 =>
      cases stopped
      exact absurd rfl notEscape
  | case4 c later notFeed inside left recurses ih =>
      cases stopped
      simp [takeQuoted, notFeed, ih recurses]
  | case5 c later noEscape noPair stops =>
      cases stopped
      rw [List.cons_append, takeQuoted.eq_4 quote quote _ (fun isEscape _ => notEscape isEscape)
        (fun _ _ isEscape _ => notEscape isEscape), if_pos stops]
  | case6 c later noEscape noPair goesOn inside left recurses ih =>
      cases stopped
      have plain : c ≠ '\\' := by
        intro isEscape
        cases later with
        | nil => exact noEscape isEscape rfl
        | cons d others => exact noPair d others isEscape rfl
      rw [List.cons_append, takeQuoted.eq_4 quote c _ (fun isEscape _ => plain isEscape)
        (fun _ _ isEscape _ => plain isEscape), if_neg (by simpa using goesOn), ih recurses]

theorem takeBlock_append_of_stopped (more : Text) {text taken rest : Text}
    (stopped : takeBlock text = (taken, '"' :: '"' :: '"' :: rest)) :
    takeBlock (text ++ more) = (taken, '"' :: '"' :: '"' :: (rest ++ more)) := by
  fun_induction takeBlock text generalizing taken with
  | case1 => cases stopped
  | case2 => cases stopped
  | case3 => cases stopped
  | case4 later =>
      cases stopped
      simp [takeBlock]
  | case5 c later third inside left recurses ih =>
      cases stopped
      simp [takeBlock, ih recurses]
  | case6 c later atEnd _ noPair inside left recurses ih =>
      cases stopped
      have second : c ≠ '"' := by
        intro isQuote
        cases later with
        | nil => exact atEnd isQuote rfl
        | cons d others => exact noPair d others isQuote rfl
      simp [takeBlock, second, ih recurses]
  | case7 c later atEnd _ _ _ noPair inside left recurses ih =>
      cases stopped
      have first : c ≠ '"' := by
        intro isQuote
        cases later with
        | nil => exact atEnd isQuote rfl
        | cons d others => exact noPair d others isQuote rfl
      simp [takeBlock, first, ih recurses]

theorem takeWhile_append_of_stop {p : Char → Bool} {c : Char} (stops : p c = false)
    (text more : Text) : (text ++ c :: more).takeWhile p = text.takeWhile p ∧
      (text ++ c :: more).dropWhile p = text.dropWhile p ++ c :: more := by
  induction text with
  | nil => simp [stops]
  | cons d rest ih =>
      simp only [List.cons_append, List.takeWhile_cons, List.dropWhile_cons]
      split
      · exact ⟨by rw [ih.1], ih.2⟩
      · exact ⟨rfl, rfl⟩

theorem takeDigits_append_newline (text more : Text) :
    takeDigits (text ++ '\n' :: more) =
      ((takeDigits text).1, (takeDigits text).2 ++ '\n' :: more) := by
  obtain ⟨taken, left⟩ := @takeWhile_append_of_stop Char.isDigit '\n' rfl text more
  rw [takeDigits, taken, left]
  rfl

theorem takeSign_append_newline (text more : Text) :
    takeSign (text ++ '\n' :: more) = ((takeSign text).1, (takeSign text).2 ++ '\n' :: more) := by
  cases text with
  | nil => rfl
  | cons c rest =>
      simp only [List.cons_append, takeSign]
      split <;> rfl

theorem takeExponent_append_newline (text more : Text) :
    takeExponent (text ++ '\n' :: more) =
      ((takeExponent text).1, (takeExponent text).2 ++ '\n' :: more) := by
  cases text with
  | nil => rfl
  | cons mark rest =>
      simp only [List.cons_append, takeExponent, takeSign_append_newline, takeDigits_append_newline]
      split <;> rfl

theorem takeFraction_append_newline (text more : Text) :
    takeFraction (text ++ '\n' :: more) =
      ((takeFraction text).1, (takeFraction text).2 ++ '\n' :: more) := by
  cases text with
  | nil => rfl
  | cons point rest =>
      simp only [List.cons_append, takeFraction, takeDigits_append_newline,
        takeExponent_append_newline]
      split <;> rfl

namespace Piece

theorem number_append_newline (sign unsigned more : Text) :
    number sign (unsigned ++ '\n' :: more) =
      ⟨(number sign unsigned).kind, (number sign unsigned).text,
        (number sign unsigned).rest ++ '\n' :: more⟩ := by
  simp only [number, takeDigits_append_newline, takeFraction_append_newline]

theorem block_append_newline {inside : Text} (closed : (block inside).kind ≠ none) (more : Text) :
    block (inside ++ '\n' :: more) =
      ⟨(block inside).kind, (block inside).text, (block inside).rest ++ '\n' :: more⟩ := by
  obtain ⟨taken, rest, stopped⟩ :
      ∃ taken rest, takeBlock inside = (taken, '"' :: '"' :: '"' :: rest) := by
    rw [block] at closed
    split at closed
    · next rest stopped => exact ⟨(takeBlock inside).1, rest, Prod.ext rfl stopped⟩
    · exact absurd rfl closed
  simp [block, stopped, takeBlock_append_of_stopped _ stopped]

theorem quoted_append_newline {kind : TokenKind} {quote : Char} {afterQuote : Text}
    (notEscape : quote ≠ '\\') (closed : (quoted kind quote afterQuote).kind ≠ none)
    (more : Text) : quoted kind quote (afterQuote ++ '\n' :: more) =
      ⟨(quoted kind quote afterQuote).kind, (quoted kind quote afterQuote).text,
        (quoted kind quote afterQuote).rest ++ '\n' :: more⟩ := by
  obtain ⟨taken, rest, stopped⟩ :
      ∃ taken rest, takeQuoted quote afterQuote = (taken, quote :: rest) := by
    rw [quoted] at closed
    split at closed
    · exact absurd rfl closed
    · next c rest stopped =>
        split at closed
        · next isQuote => exact ⟨(takeQuoted quote afterQuote).1, rest, Prod.ext rfl (isQuote ▸ stopped)⟩
        · exact absurd rfl closed
  simp [quoted, stopped, takeQuoted_append_of_stopped notEscape _ stopped]

theorem next_quote {rest : Text} (single : ∀ inside, rest ≠ '"' :: '"' :: inside) :
    next '"' rest = quoted .stringLiteral '"' rest := by
  rw [next.eq_def, if_pos rfl]
  split
  · next inside => exact absurd rfl (single inside)
  · rfl

theorem startsWithDigit_append_newline (text more : Text) :
    startsWithDigit (text ++ '\n' :: more) = startsWithDigit text := by
  cases text <;> rfl

/-- A token at the front of a text is the same token when another line follows the text. -/
theorem next_append_newline {c : Char} {rest : Text} (isToken : (next c rest).kind ≠ none)
    (more : Text) : next c (rest ++ '\n' :: more) =
      ⟨(next c rest).kind, (next c rest).text, (next c rest).rest ++ '\n' :: more⟩ := by
  by_cases isQuote : c = '"'
  · subst isQuote
    by_cases double : ∃ inside, rest = '"' :: '"' :: inside
    · obtain ⟨inside, rfl⟩ := double
      exact block_append_newline isToken more
    · have single : ∀ inside, rest ≠ '"' :: '"' :: inside := not_exists.mp double
      have stillSingle : ∀ inside, rest ++ '\n' :: more ≠ '"' :: '"' :: inside := by
        match rest with
        | [] => simp
        | [d] => simp
        | d :: e :: others => simpa using single
      rw [next_quote single] at isToken
      rw [next_quote stillSingle, next_quote single]
      exact quoted_append_newline (by decide) isToken more
  · simp only [next.eq_def c, if_neg isQuote, startsWithDigit_append_newline] at isToken ⊢
    by_cases isSingle : c = '\x27'
    · simp only [if_pos isSingle] at isToken ⊢
      exact quoted_append_newline (by decide) isToken more
    simp only [if_neg isSingle]
    by_cases isSign : (c = '-' && startsWithDigit rest) = true
    · simp only [if_pos isSign]
      exact number_append_newline _ _ _
    simp only [if_neg isSign]
    by_cases isDigit : c.isDigit = true
    · simp only [if_pos isDigit]
      exact number_append_newline [] (c :: rest) more
    simp only [if_neg isDigit]
    by_cases startsName : isNameStart c = true
    · obtain ⟨taken, left⟩ := @takeWhile_append_of_stop isNameChar '\n' (by decide) rest more
      simp only [if_pos startsName, taken, left]
    · simp only [if_neg startsName]

end Piece

theorem takeIgnored_append_of_cons {inComment : Bool} {text rest : Text} {c : Char}
    (started : (takeIgnored inComment text).2 = c :: rest) (more : Text) :
    takeIgnored inComment (text ++ more) =
      ((takeIgnored inComment text).1, c :: (rest ++ more)) := by
  induction text generalizing inComment with
  | nil => cases started
  | cons d later ih =>
      rw [takeIgnored] at started ⊢
      rw [List.cons_append, takeIgnored]
      split at started
      · next ignorable =>
          rw [if_pos ignorable, if_pos ignorable, ih started]
      · next visible =>
          cases started
          rw [if_neg visible, if_neg visible]

/-- A line feed ends a comment at the end of a text that is ignored as a whole. -/
theorem takeIgnored_append_newline {inComment : Bool} {text : Text}
    (ended : (takeIgnored inComment text).2 = []) (more : Text) :
    takeIgnored inComment (text ++ '\n' :: more) =
      (text ++ '\n' :: (takeIgnored false more).1, (takeIgnored false more).2) := by
  induction text generalizing inComment with
  | nil => cases inComment <;> simp [takeIgnored, isSeparator]
  | cons d later ih =>
      rw [takeIgnored] at ended
      rw [List.cons_append, takeIgnored]
      split at ended
      · next ignorable =>
          rw [if_pos ignorable, ih ended]
          rfl
      · cases ended

def Span.shift (count : Nat) (span : Span) : Span :=
  ⟨span.start + count, span.stop + count⟩

def Token.shift (count : Nat) (token : Token) : Token :=
  { token with span := token.span.shift count }

namespace SourceItem

def shift (count : Nat) (item : SourceItem) : SourceItem :=
  { item with span := item.span.shift count }

theorem scanFrom_shift (count offset : Nat) (text : Text) :
    scanFrom (offset + count) text = (scanFrom offset text).map (shift count) := by
  fun_induction scanFrom offset text with
  | case1 offset text ended => exact scanFrom_of_nil _ ended
  | case2 offset text start c rest started piece stop ih =>
      have moved : offset + count + (takeIgnored false text).1.utf8Length = start + count :=
        Nat.add_right_comm _ _ _
      have movedStop : start + count + piece.text.utf8Length = stop + count :=
        Nat.add_right_comm _ _ _
      rw [scanFrom_of_cons _ started, List.map_cons, ← ih, moved, movedStop]
      rfl

theorem scanFrom_append_newline {offset : Nat} {text : Text}
    (tokens : ∀ item ∈ scanFrom offset text, item.kind ≠ none) (more : Text) :
    scanFrom offset (text ++ '\n' :: more) =
      scanFrom offset text ++ scanFrom (offset + text.utf8Length + 1) more := by
  fun_induction scanFrom offset text with
  | case1 offset text ended =>
      have newlineSize : (text ++ ['\n']).utf8Length = text.utf8Length + 1 := by
        rw [Text.utf8Length_append]
        rfl
      have skipped : takeIgnored false (text ++ '\n' :: more) =
          ((text ++ ['\n']) ++ (takeIgnored false more).1, (takeIgnored false more).2) := by
        rw [takeIgnored_append_newline ended, List.append_assoc, List.singleton_append]
      rw [scanFrom_of_ignored skipped, newlineSize, List.nil_append, Nat.add_assoc]
  | case2 offset text start c rest started piece stop ih =>
      rw [List.forall_mem_cons] at tokens
      have together := takeIgnored_append_of_cons started ('\n' :: more)
      have sameStart : (takeIgnored false (text ++ '\n' :: more)).2 =
          c :: (rest ++ '\n' :: more) := by
        rw [together]
      have samePiece := Piece.next_append_newline tokens.1 more
      have size : stop + piece.rest.utf8Length = offset + text.utf8Length := by
        have whole := congrArg Text.utf8Length (takeIgnored_append false text)
        have parts : piece.text.utf8Length + piece.rest.utf8Length = Text.utf8Length (c :: rest) := by
          rw [← Text.utf8Length_append]
          exact congrArg Text.utf8Length (Piece.next_append c rest)
        rw [started, Text.utf8Length_append] at whole
        omega
      rw [scanFrom_of_cons _ sameStart, together, samePiece, List.cons_append, ← size]
      exact congrArg _ (ih tokens.2)

end SourceItem

/-- The tokens of a text with a further line are those of the text, followed by those of the line moved
behind the line feed. -/
theorem Token.ofText_append_newline {first second : Text} {firstTokens secondTokens : List Token}
    (firstRead : ofText first = .ok firstTokens) (secondRead : ofText second = .ok secondTokens) :
    ofText (first ++ '\n' :: second) =
      .ok (firstTokens ++ secondTokens.map (Token.shift (first.utf8Length + 1))) := by
  rw [ofText_eq_ok_iff] at firstRead secondRead ⊢
  have valid : ∀ item ∈ SourceItem.scanFrom 0 first, item.kind ≠ none := by
    intro item member
    rw [← SourceItem.scan, firstRead] at member
    obtain ⟨token, -, rfl⟩ := List.mem_map.mp member
    exact Option.some_ne_none _
  have moved := SourceItem.scanFrom_shift (first.utf8Length + 1) 0 second
  rw [SourceItem.scan, SourceItem.scanFrom_append_newline valid, Nat.add_assoc, moved,
    ← SourceItem.scan, ← SourceItem.scan, firstRead, secondRead, List.map_append, List.map_map,
    List.map_map]
  rfl

end SdlWorkbench
