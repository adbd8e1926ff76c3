import SdlWorkbench.Proofs.Token.Reading
import Mathlib.Data.List.Basic
/-!
The lexemes of canonical text.

Punctuation, names, strings and block strings are read as one token each, provided that what follows
them cannot make the token longer.
-/

namespace SdlWorkbench

/-- A text that cannot make the name before it longer. -/
def EndsName (rest : Text) : Prop :=
  ∀ c, rest.head? = some c → isNameChar c = false

namespace Lexeme

def mark (kind : TokenKind) (c : Char) : Lexeme :=
  ⟨kind, [c]⟩

def identifier (text : Text) : Lexeme :=
  ⟨TokenKind.ofIdentifier text, text⟩

def string (text : Text) : Lexeme :=
  ⟨.stringLiteral, '"' :: text.escape ++ ['"']⟩

def block (inside : Text) : Lexeme :=
  ⟨.blockString, "\"\"\"".toList ++ inside ++ "\"\"\"".toList⟩

theorem identifier_isName (text : Text) : (identifier text).kind.isName = true := by
  simp only [identifier, TokenKind.ofIdentifier]
  split
  · rfl
  · split <;> rfl

theorem identifier_name? (name : Name) : (identifier name.text).name? = some name := by
  rw [name?, if_pos (identifier_isName name.text)]
  exact Name.ofText?_text name

theorem block_injective {left right : Text} (same : block left = block right) : left = right := by
  simpa [block] using same

theorem block_ne_string (inside text : Text) : block inside ≠ string text := by
  simp [block, string]

end Lexeme

theorem Piece.next_mark {kind : TokenKind} {c : Char}
    (known : TokenKind.ofPunctuation? c = some kind) (rest : Text) :
    next c rest = ⟨some kind, [c], rest⟩ := by
  unfold TokenKind.ofPunctuation? at known
  split at known <;> cases known <;> rfl

theorem Reads.mark {kind : TokenKind} {c : Char} (known : TokenKind.ofPunctuation? c = some kind)
    (rest : Text) : Reads (c :: rest) [.mark kind c] rest :=
  Reads.single (Piece.next_mark known rest)

theorem Reads.spaces (width : Nat) (text : Text) :
    Reads (List.replicate width ' ' ++ text) [] text := by
  induction width with
  | zero => exact .done text
  | succ width ih =>
      rw [List.replicate_succ, List.cons_append]
      exact .separator rfl ih

theorem Reads.newline (text : Text) : Reads ('\n' :: text) [] text :=
  .separator rfl (.done text)

private theorem toNat_of_isNameStart {c : Char} (starts : isNameStart c = true) :
    65 ≤ c.val.toNat ∧ c.val.toNat ≤ 122 := by
  rw [isNameStart, Bool.or_eq_true, decide_eq_true_eq] at starts
  rcases starts with letter | rfl
  · rcases (Bool.or_eq_true _ _).mp letter with upper | lower
    · have bounds : 'A'.val ≤ c.val ∧ c.val ≤ 'Z'.val := of_decide_eq_true upper
      rw [UInt32.le_iff_toNat_le, UInt32.le_iff_toNat_le] at bounds
      change 65 ≤ c.val.toNat ∧ c.val.toNat ≤ 90 at bounds
      omega
    · have bounds := (Bool.and_eq_true _ _).mp lower
      rw [decide_eq_true_eq, decide_eq_true_eq, ge_iff_le, UInt32.le_iff_toNat_le,
        UInt32.le_iff_toNat_le] at bounds
      change 97 ≤ c.val.toNat ∧ c.val.toNat ≤ 122 at bounds
      omega
  · exact ⟨by decide, by decide⟩

private theorem isDigit_of_isNameStart {c : Char} (starts : isNameStart c = true) :
    c.isDigit = false := by
  have atLeast := (toNat_of_isNameStart starts).1
  by_contra digit
  have bounds := (Bool.and_eq_true _ _).mp (eq_true_of_ne_false digit)
  rw [decide_eq_true_eq, decide_eq_true_eq, UInt32.le_iff_toNat_le] at bounds
  have atMost : c.val.toNat ≤ 57 := bounds.2
  omega

theorem next_of_isNameStart {c : Char} (starts : isNameStart c = true) (rest : Text) :
    Piece.next c rest = ⟨some (TokenKind.ofIdentifier (c :: rest.takeWhile isNameChar)),
      c :: rest.takeWhile isNameChar, rest.dropWhile isNameChar⟩ := by
  have distinct : c ≠ '"' ∧ c ≠ '\x27' ∧ c ≠ '-' := by
    refine ⟨?_, ?_, ?_⟩ <;> rintro rfl <;> revert starts <;> decide
  simp [Piece.next, distinct, isDigit_of_isNameStart starts, starts]

theorem Piece.next_identifier {c : Char} {tail : Text} (valid : isIdentifier (c :: tail) = true)
    {rest : Text} (ends : EndsName rest) : next c (tail ++ rest) =
      ⟨some (TokenKind.ofIdentifier (c :: tail)), c :: tail, rest⟩ := by
  simp only [isIdentifier, Bool.and_eq_true, List.all_eq_true] at valid
  have taken : (tail ++ rest).takeWhile isNameChar = tail := by
    rw [List.takeWhile_append_of_pos valid.2]
    cases rest with
    | nil => simp
    | cons d rest => simp [ends d rfl]
  have left : (tail ++ rest).dropWhile isNameChar = rest := by
    rw [List.dropWhile_append_of_pos valid.2]
    cases rest with
    | nil => rfl
    | cons d rest => simp [ends d rfl]
  rw [next_of_isNameStart valid.1, taken, left]

theorem Reads.identifier {text : Text} (valid : isIdentifier text = true) {rest : Text}
    (ends : EndsName rest) : Reads (text ++ rest) [.identifier text] rest := by
  cases text with
  | nil => cases valid
  | cons c tail => exact Reads.single (Piece.next_identifier valid ends)

theorem Reads.name (name : Name) {rest : Text} (ends : EndsName rest) :
    Reads (name.text ++ rest) [.identifier name.text] rest :=
  Reads.identifier name.isIdentifier_text ends

theorem takeQuoted_escape {text : Text} (noFeed : '\n' ∉ text) (rest : Text) :
    takeQuoted '"' (text.escape ++ '"' :: rest) = (text.escape, '"' :: rest) := by
  induction text with
  | nil => simp [Text.escape, takeQuoted]
  | cons c text ih =>
      rw [List.mem_cons, not_or] at noFeed
      have later := ih noFeed.2
      rw [Text.escape]
      split
      · have notFeed : c ≠ '\n' := Ne.symm noFeed.1
        simp [takeQuoted, notFeed, later]
      · next plain =>
          rw [not_or] at plain
          have notFeed : c ≠ '\n' := Ne.symm noFeed.1
          rw [List.cons_append, takeQuoted.eq_4 _ _ _ (by simp [plain.2]) (by simp [plain.2])]
          simp [plain.1, notFeed, later]

theorem Reads.string {text : Text} (noFeed : '\n' ∉ text) {rest : Text}
    (noQuote : rest.head? ≠ some '"') :
    Reads ('"' :: text.escape ++ '"' :: rest) [.string text] rest := by
  have single : ∀ inside, text.escape ++ '"' :: rest ≠ '"' :: '"' :: inside := by
    intro inside
    cases text with
    | nil =>
        cases rest with
        | nil => simp [Text.escape]
        | cons c rest =>
            have notQuote : c ≠ '"' := by simpa using noQuote
            simp [Text.escape, notQuote]
    | cons c text =>
        rw [Text.escape]
        split
        · simp
        · next plain =>
            rw [not_or] at plain
            simp [plain.1]
  rw [List.cons_append]
  apply Reads.single
  rw [Piece.next, if_pos rfl]
  · simp [Piece.quoted, takeQuoted_escape noFeed, Lexeme.string]
  · exact single

/-- What may stand between the triple quotes of a block string. -/
def FitsBlock (inside : Text) : Prop :=
  ¬ ['"', '"', '"'] <:+: inside ∧ inside.getLast? ≠ some '"'

private theorem FitsBlock.of_append {front back : Text} (fits : FitsBlock (front ++ back)) :
    FitsBlock back := by
  refine ⟨fun found => fits.1 (found.trans (List.suffix_append front back).isInfix), ?_⟩
  intro quoted
  have nonempty : back ≠ [] := by
    rintro rfl
    cases quoted
  exact fits.2 (by rw [List.getLast?_append_of_ne_nil _ nonempty, quoted])

theorem takeBlock_append_quotes {inside : Text} (fits : FitsBlock inside) (rest : Text) :
    takeBlock (inside ++ '"' :: '"' :: '"' :: rest) = (inside, '"' :: '"' :: '"' :: rest) := by
  match inside with
  | [] => simp [takeBlock]
  | c :: more =>
      by_cases isQuote : c = '"'
      · subst isQuote
        match more with
        | [] => exact absurd rfl fits.2
        | d :: more =>
            by_cases again : d = '"'
            · subst again
              match more with
              | [] => exact absurd rfl fits.2
              | e :: more =>
                  -- Otherwise the block would end here; the equation of this case asks for it.
                  have third : e ≠ '"' := by
                    rintro rfl
                    exact fits.1 (List.prefix_append _ more).isInfix
                  have later := takeBlock_append_quotes (@FitsBlock.of_append ['"', '"', e] _ fits) rest
                  simp [takeBlock, later]
            · have later := takeBlock_append_quotes (@FitsBlock.of_append ['"', d] _ fits) rest
              simp [takeBlock, again, later]
      · have later := takeBlock_append_quotes (@FitsBlock.of_append [c] _ fits) rest
        simp [takeBlock, isQuote, later]

theorem Piece.next_block {inside : Text} (fits : FitsBlock inside) (rest : Text) :
    next '"' ('"' :: '"' :: (inside ++ '"' :: '"' :: '"' :: rest)) =
      ⟨some .blockString, (Lexeme.block inside).text, rest⟩ := by
  simp [next, block, takeBlock_append_quotes fits, Lexeme.block]

theorem Reads.block {inside : Text} (fits : FitsBlock inside) (rest : Text) :
    Reads ((Lexeme.block inside).text ++ rest) [.block inside] rest := by
  have text : (Lexeme.block inside).text ++ rest =
      '"' :: '"' :: '"' :: (inside ++ '"' :: '"' :: '"' :: rest) := by
    simp [Lexeme.block]
  rw [text]
  exact Reads.single (Piece.next_block fits rest)

end SdlWorkbench
