import SdlWorkbench.Proofs.Token.LexicalClass
/-!
What a piece is.

The text of a piece with a kind belongs to the class of that kind, and no longer text of any class stands
where it begins.  Where a piece has no kind, no text of a class begins at all, except for an empty string
with a third quote behind it: three quotes only ever open a block string.
-/

namespace SdlWorkbench

theorem fitsQuotes_takeQuoted (quote : Char) (text : Text) :
    FitsQuotes quote (takeQuoted quote text).1 := by
  fun_induction takeQuoted quote text with
  | case1 => exact .nil
  | case2 => exact .nil
  | case3 => exact .nil
  | case4 c rest notFeed taken left recurses ih =>
      rw [recurses] at ih
      exact .escape notFeed ih
  | case5 => exact .nil
  | case6 c rest noEscape noPair goesOn taken left recurses ih =>
      rw [Bool.or_eq_true, decide_eq_true_eq, decide_eq_true_eq, not_or] at goesOn
      rw [recurses] at ih
      have plain : c ≠ '\\' := by
        intro isEscape
        cases rest with
        | nil => exact noEscape isEscape rfl
        | cons d others => exact noPair d others isEscape rfl
      exact .char goesOn.1 plain goesOn.2 ih

theorem fitsBlock_nil : FitsBlock [] :=
  ⟨by simp, by simp⟩

/-- A character that is no quote may stand in front, with up to two quotes in front of it. -/
theorem FitsBlock.cons {c : Char} (notQuote : c ≠ '"') {inside : Text} (fits : FitsBlock inside) :
    FitsBlock (c :: inside) ∧ FitsBlock ('"' :: c :: inside) ∧
      FitsBlock ('"' :: '"' :: c :: inside) := by
  have lastOfCons : ∀ front : Text, (front ++ c :: inside).getLast? ≠ some '"' := by
    intro front
    rw [List.getLast?_append_of_ne_nil _ (List.cons_ne_nil c inside)]
    cases inside with
    | nil => simpa using notQuote
    | cons d rest => exact fits.2
  have noQuotes := fits.1
  refine ⟨⟨?_, lastOfCons []⟩, ⟨?_, lastOfCons ['"']⟩, ⟨?_, lastOfCons ['"', '"']⟩⟩ <;>
    simp [List.infix_cons_iff, notQuote.symm, noQuotes]

theorem fitsBlock_takeBlock (text : Text) : FitsBlock (takeBlock text).1 := by
  fun_induction takeBlock text with
  | case1 => exact fitsBlock_nil
  | case2 => exact fitsBlock_nil
  | case3 => exact fitsBlock_nil
  | case4 => exact fitsBlock_nil
  | case5 c rest third taken left recurses ih =>
      rw [recurses] at ih
      exact (ih.cons third).2.2
  | case6 c rest atEnd _ noPair taken left recurses ih =>
      rw [recurses] at ih
      have second : c ≠ '"' := by
        intro isQuote
        cases rest with
        | nil => exact atEnd isQuote rfl
        | cons d others => exact noPair d others isQuote rfl
      exact (ih.cons second).2.1
  | case7 c rest atEnd _ _ _ noPair taken left recurses ih =>
      rw [recurses] at ih
      have first : c ≠ '"' := by
        intro isQuote
        cases rest with
        | nil => exact atEnd isQuote rfl
        | cons d others => exact noPair d others isQuote rfl
      exact (ih.cons first).1

theorem isNumeral_takeDigits {text : Text} (nonempty : (takeDigits text).1 ≠ []) :
    IsNumeral (takeDigits text).1 :=
  ⟨nonempty, List.all_eq_true.mp List.all_takeWhile⟩

theorem takeSign_cases (text : Text) :
    (takeSign text).1 = [] ∨ (takeSign text).1 = ['+'] ∨ (takeSign text).1 = ['-'] := by
  cases text with
  | nil => exact .inl rfl
  | cons c rest =>
      simp only [takeSign]
      split
      · next isSign =>
          rw [Bool.or_eq_true, decide_eq_true_eq, decide_eq_true_eq] at isSign
          rcases isSign with rfl | rfl
          · exact .inr (.inl rfl)
          · exact .inr (.inr rfl)
      · exact .inl rfl

theorem isExponent_takeExponent (text : Text) : IsExponent (takeExponent text).1 := by
  cases text with
  | nil => exact .none
  | cons mark rest =>
      simp only [takeExponent]
      split
      · next marked =>
          rw [Bool.and_eq_true, Bool.or_eq_true, decide_eq_true_eq, decide_eq_true_eq] at marked
          have numeral : IsNumeral (takeDigits (takeSign rest).2).1 :=
            isNumeral_takeDigits (by simpa using marked.2)
          exact .some marked.1 (takeSign_cases rest) numeral
      · exact .none

theorem exists_takeFraction_eq {text : Text} (found : (takeFraction text).1 ≠ []) :
    ∃ fraction exponent, IsNumeral fraction ∧ IsExponent exponent ∧
      (takeFraction text).1 = '.' :: (fraction ++ exponent) := by
  cases text with
  | nil => exact absurd rfl found
  | cons point rest =>
      simp only [takeFraction] at found ⊢
      split at found
      · next pointed =>
          rw [if_pos pointed]
          rw [Bool.and_eq_true, decide_eq_true_eq] at pointed
          obtain ⟨rfl, digits⟩ := pointed
          exact ⟨_, _, isNumeral_takeDigits (by simpa using digits), isExponent_takeExponent _, rfl⟩
      · exact absurd rfl found

namespace Piece

theorem block_inClass {afterQuotes : Text} {kind : TokenKind}
    (isKind : (block afterQuotes).kind = some kind) :
    Lexeme.InClass ⟨kind, (block afterQuotes).text⟩ := by
  simp only [block] at isKind ⊢
  split at isKind
  · cases isKind
    exact .block (fitsBlock_takeBlock afterQuotes)
  · cases isKind

theorem quoted_text {kind found : TokenKind} {quote : Char} {afterQuote : Text}
    (isKind : (quoted kind quote afterQuote).kind = some found) :
    found = kind ∧ ∃ inside, FitsQuotes quote inside ∧
      (quoted kind quote afterQuote).text = quote :: inside ++ [quote] := by
  simp only [quoted] at isKind ⊢
  split at isKind
  · cases isKind
  · split at isKind
    · next isQuote =>
        cases isKind
        rw [if_pos isQuote]
        exact ⟨rfl, _, fitsQuotes_takeQuoted quote afterQuote, rfl⟩
    · cases isKind

theorem number_inClass {sign unsigned : Text} (signs : sign = [] ∨ sign = ['-'])
    (starts : startsWithDigit unsigned = true) {kind : TokenKind}
    (isKind : (number sign unsigned).kind = some kind) :
    Lexeme.InClass ⟨kind, (number sign unsigned).text⟩ := by
  have numeral : IsNumeral (takeDigits unsigned).1 := by
    apply isNumeral_takeDigits
    cases unsigned with
    | nil => cases starts
    | cons d rest =>
        rw [startsWithDigit] at starts
        simp [takeDigits, starts]
  simp only [number] at isKind ⊢
  cases isKind
  by_cases whole : (takeFraction (takeDigits unsigned).2).1 = []
  · rw [whole, List.append_nil]
    exact .integer signs numeral
  · obtain ⟨fraction, exponent, fractional, ends, same⟩ := exists_takeFraction_eq whole
    rw [same]
    exact .float signs numeral fractional ends

theorem next_inClass {c : Char} {rest : Text} {kind : TokenKind}
    (isKind : (next c rest).kind = some kind) : Lexeme.InClass ⟨kind, (next c rest).text⟩ := by
  unfold next at isKind ⊢
  split at isKind
  · next isQuote =>
      rw [if_pos isQuote]
      split at isKind
      · exact block_inClass isKind
      · obtain ⟨rfl, inside, fits, same⟩ := quoted_text isKind
        rw [same]
        exact .stringLiteral fits
  next notQuote =>
  rw [if_neg notQuote]
  split at isKind
  · next isQuote =>
      rw [if_pos isQuote]
      obtain ⟨rfl, inside, fits, same⟩ := quoted_text isKind
      rw [same]
      exact .singleQuoted fits
  next notSingle =>
  rw [if_neg notSingle]
  split at isKind
  · next isSign =>
      rw [if_pos isSign]
      rw [Bool.and_eq_true] at isSign
      exact number_inClass (.inr rfl) isSign.2 isKind
  next notSign =>
  rw [if_neg notSign]
  split at isKind
  · next isDigit =>
      rw [if_pos isDigit]
      exact @number_inClass [] (c :: rest) (.inl rfl) isDigit kind isKind
  next notDigit =>
  rw [if_neg notDigit]
  split at isKind
  · next starts =>
      rw [if_pos starts]
      cases isKind
      refine .identifier ?_
      rw [isIdentifier, starts, Bool.true_and]
      exact List.all_takeWhile
  next notName =>
  rw [if_neg notName]
  exact .mark isKind

end Piece

theorem takeDigits_append_of_digits {digits : Text} (each : ∀ c ∈ digits, c.isDigit = true)
    (more : Text) : (takeDigits (digits ++ more)).1 = digits ++ (takeDigits more).1 :=
  List.takeWhile_append_of_pos each

theorem length_le_takeExponent {exponent : Text} (ends : IsExponent exponent) (more : Text) :
    exponent.length ≤ (takeExponent (exponent ++ more)).1.length := by
  cases ends with
  | none => exact Nat.zero_le _
  | @some mark sign digits marks signs numeral =>
      have isMark : (decide (mark = 'e') || decide (mark = 'E')) = true := by
        rcases marks with rfl | rfl <;> rfl
      rw [List.cons_append, List.append_assoc, takeExponent, takeSign_of_numeral signs numeral]
      simp [takeDigits_append_of_digits numeral.digits, isMark, numeral.nonempty]

theorem length_takeFraction {rest : Text} (nonempty : (takeDigits rest).1 ≠ []) :
    (takeFraction ('.' :: rest)).1.length =
      (takeDigits rest).1.length + (takeExponent (takeDigits rest).2).1.length + 1 := by
  rw [takeFraction, if_pos (by simp [nonempty])]
  simp only [List.cons_append, List.length_cons, List.length_append]

theorem length_lt_takeFraction {fraction exponent : Text} (fractional : IsNumeral fraction)
    (ends : IsExponent exponent) (more : Text) : fraction.length + exponent.length <
      (takeFraction ('.' :: (fraction ++ (exponent ++ more)))).1.length := by
  cases ends with
  | none =>
      have digits := takeDigits_append_of_digits fractional.digits more
      have nonempty : (takeDigits (fraction ++ more)).1 ≠ [] := by
        rw [digits]
        exact List.append_ne_nil_of_left_ne_nil fractional.nonempty _
      rw [List.nil_append, length_takeFraction nonempty, digits, List.length_append,
        List.length_nil]
      omega
  | @some mark sign digits marks signs numeral =>
      have noDigit : ∀ c, (mark :: (sign ++ digits) ++ more).head? = some c →
          c.isDigit = false := by
        intro c first
        cases first
        rcases marks with rfl | rfl <;> decide
      have exponential := length_le_takeExponent (.some marks signs numeral) more
      have digitsRead := takeDigits_of_numeral fractional noDigit
      have nonempty : (takeDigits (fraction ++ (mark :: (sign ++ digits) ++ more))).1 ≠ [] := by
        rw [digitsRead]
        exact fractional.nonempty
      rw [length_takeFraction nonempty, digitsRead]
      dsimp only
      omega

namespace Piece

theorem length_number (sign unsigned : Text) : (number sign unsigned).text.length =
    sign.length + (takeDigits unsigned).1.length +
      (takeFraction (takeDigits unsigned).2).1.length := by
  simp [number, Nat.add_assoc]

theorem two_le_length_block (afterQuotes : Text) : 2 ≤ (block afterQuotes).text.length := by
  simp only [block]
  split <;> simp

end Piece

theorem Lexeme.long_of_token {lexeme : Lexeme} {piece : Piece} {more : Text}
    (isToken : piece.kind.isSome = true) (long : lexeme.text.length ≤ piece.text.length) :
    lexeme.text.length ≤ piece.text.length ∧
      (piece.kind = none → lexeme.text = ['"', '"'] ∧ more.head? = some '"') := by
  refine ⟨long, fun isNone => ?_⟩
  rw [isNone] at isToken
  cases isToken

/-- Where a text of a class begins, the piece is a token and not shorter.  Only an empty string may be
the beginning of a block string that never ends. -/
theorem Lexeme.InClass.length_le_next {lexeme : Lexeme} (inClass : lexeme.InClass) {c : Char}
    {rest more : Text} (begins : lexeme.text ++ more = c :: rest) :
    lexeme.text.length ≤ (Piece.next c rest).text.length ∧
      ((Piece.next c rest).kind = none → lexeme.text = ['"', '"'] ∧ more.head? = some '"') := by
  cases inClass with
  | mark known =>
      cases begins
      rw [Piece.next_mark known]
      exact long_of_token rfl (Nat.le_refl _)
  | @identifier text valid =>
      cases text with
      | nil => cases valid
      | cons d tail =>
          obtain ⟨rfl, rfl⟩ : d = c ∧ tail ++ more = rest := List.cons.inj begins
          simp only [isIdentifier, Bool.and_eq_true, List.all_eq_true] at valid
          rw [next_of_isNameStart valid.1, List.takeWhile_append_of_pos valid.2]
          exact long_of_token rfl (by simp [Lexeme.identifier])
  | @stringLiteral inside fits =>
      obtain ⟨rfl, rfl⟩ : '"' = c ∧ inside ++ '"' :: more = rest := by simpa using begins
      by_cases third : more.head? = some '"'
      · cases fits with
        | nil =>
            obtain ⟨behind, rfl⟩ := List.head?_eq_some_iff.mp third
            exact ⟨Piece.two_le_length_block behind, fun _ => ⟨rfl, third⟩⟩
        | char notQuote notEscape notFeed later =>
            rw [Piece.next_quote (by simp [notQuote]),
              Piece.quoted_of_fits (by decide) (.char notQuote notEscape notFeed later)]
            exact long_of_token rfl (Nat.le_refl _)
        | escape notFeed later =>
            rw [Piece.next_quote (by simp),
              Piece.quoted_of_fits (by decide) (.escape notFeed later)]
            exact long_of_token rfl (Nat.le_refl _)
      · rw [Piece.next_stringLiteral fits third]
        exact long_of_token rfl (Nat.le_refl _)
  | @singleQuoted inside fits =>
      have parts : c :: rest = '\x27' :: (inside ++ '\x27' :: more) := by simpa using begins.symm
      cases parts
      rw [Piece.next_singleQuoted fits]
      exact long_of_token rfl (Nat.le_refl _)
  | @block inside fits =>
      have parts : c :: rest = '"' :: '"' :: '"' :: (inside ++ '"' :: '"' :: '"' :: more) := by
        simpa [Lexeme.block] using begins.symm
      cases parts
      rw [Piece.next_block fits]
      exact long_of_token rfl (Nat.le_refl _)
  | @integer sign digits signs numeral =>
      obtain ⟨d, tail, parts, next⟩ := Piece.exists_next_number signs numeral more
      have same : d :: tail = c :: rest := by rw [← parts, ← begins, List.append_assoc]
      obtain ⟨rfl, rfl⟩ := List.cons.inj same
      rw [next]
      refine long_of_token rfl ?_
      rw [Piece.length_number, takeDigits_append_of_digits numeral.digits]
      simp only [List.length_append]
      omega
  | @float sign digits fraction exponent signs numeral fractional ends =>
      obtain ⟨d, tail, parts, next⟩ :=
        Piece.exists_next_number signs numeral ('.' :: (fraction ++ (exponent ++ more)))
      have noDigit : ∀ c, ('.' :: (fraction ++ (exponent ++ more))).head? = some c →
          c.isDigit = false := by
        intro c first
        cases first
        decide
      have same : d :: tail = c :: rest := by rw [← parts, ← begins]; simp
      obtain ⟨rfl, rfl⟩ := List.cons.inj same
      have longer := length_lt_takeFraction fractional ends more
      rw [next]
      refine long_of_token rfl ?_
      rw [Piece.length_number, takeDigits_of_numeral numeral noDigit]
      simp only [List.length_append, List.length_cons]
      omega

/-- The piece is what stands at the front of its text: a token of its class, as long as any text of a
class there, or text where no text of a class begins.  The exception is an empty string with a third
quote behind it. -/
structure Piece.IsMatch (piece : Piece) : Prop where
  inClass : ∀ kind, piece.kind = some kind → Lexeme.InClass ⟨kind, piece.text⟩
  longest : ∀ lexeme : Lexeme, lexeme.InClass → lexeme.text <+: piece.text ++ piece.rest →
    lexeme.text.length ≤ piece.text.length
  invalid : piece.kind = none → ∀ lexeme : Lexeme, lexeme.InClass →
    lexeme.text <+: piece.text ++ piece.rest →
      lexeme.text = ['"', '"'] ∧ ['"', '"', '"'] <+: piece.text ++ piece.rest

theorem Piece.next_isMatch (c : Char) (rest : Text) : (next c rest).IsMatch where
  inClass := fun _ isKind => next_inClass isKind
  longest := by
    rintro lexeme inClass ⟨more, begins⟩
    rw [next_append] at begins
    exact (inClass.length_le_next begins).1
  invalid := by
    rintro isNone lexeme inClass ⟨more, begins⟩
    rw [next_append] at begins ⊢
    obtain ⟨empty, third⟩ := (inClass.length_le_next begins).2 isNone
    obtain ⟨behind, rfl⟩ := List.head?_eq_some_iff.mp third
    refine ⟨empty, behind, ?_⟩
    rw [← begins, empty]
    rfl

end SdlWorkbench
