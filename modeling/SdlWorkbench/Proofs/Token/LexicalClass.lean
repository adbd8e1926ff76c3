import SdlWorkbench.Proofs.Token.Joining
import SdlWorkbench.Proofs.Token.Lexeme
/-!
The lexical classes.

Each kind of tokens has a class of texts: single characters, identifiers, strings in one of three kinds
of quotes, and numbers.  A text of a class is read as one token of its kind whenever the end of the text,
ignored text or punctuation comes behind it.
-/

namespace SdlWorkbench

/-- What may stand between two `quote` marks on one line: characters, and escapes of a backslash and a
character. -/
inductive FitsQuotes (quote : Char) : Text → Prop where
  | nil : FitsQuotes quote []
  | char {c : Char} {rest : Text} (notQuote : c ≠ quote) (notEscape : c ≠ '\\') (notFeed : c ≠ '\n')
      (later : FitsQuotes quote rest) : FitsQuotes quote (c :: rest)
  | escape {c : Char} {rest : Text} (notFeed : c ≠ '\n') (later : FitsQuotes quote rest) :
      FitsQuotes quote ('\\' :: c :: rest)

structure IsNumeral (text : Text) : Prop where
  nonempty : text ≠ []
  digits : ∀ c ∈ text, c.isDigit = true

/-- The end of a float: nothing, or a mark, a sign or none, and digits. -/
inductive IsExponent : Text → Prop where
  | none : IsExponent []
  | some {mark : Char} {sign digits : Text} (marks : mark = 'e' ∨ mark = 'E')
      (signs : sign = [] ∨ sign = ['+'] ∨ sign = ['-']) (numeral : IsNumeral digits) :
      IsExponent (mark :: (sign ++ digits))

/-- The text of a lexeme belongs to the class of its kind.  Of the identifiers, `type` and `enum` have
kinds of their own. -/
inductive Lexeme.InClass : Lexeme → Prop where
  | mark {kind : TokenKind} {c : Char} (known : TokenKind.ofPunctuation? c = some kind) :
      InClass (.mark kind c)
  | identifier {text : Text} (valid : isIdentifier text = true) : InClass (.identifier text)
  | stringLiteral {inside : Text} (fits : FitsQuotes '"' inside) :
      InClass ⟨.stringLiteral, '"' :: inside ++ ['"']⟩
  | singleQuoted {inside : Text} (fits : FitsQuotes '\x27' inside) :
      InClass ⟨.singleQuoted, '\x27' :: inside ++ ['\x27']⟩
  | block {inside : Text} (fits : FitsBlock inside) : InClass (.block inside)
  | integer {sign digits : Text} (signs : sign = [] ∨ sign = ['-']) (numeral : IsNumeral digits) :
      InClass ⟨.integer, sign ++ digits⟩
  | float {sign digits fraction exponent : Text} (signs : sign = [] ∨ sign = ['-'])
      (numeral : IsNumeral digits) (fractional : IsNumeral fraction) (ends : IsExponent exponent) :
      InClass ⟨.float, sign ++ digits ++ '.' :: (fraction ++ exponent)⟩

/-- A character that belongs to no token but its own, and to no other token in front of it. -/
def isDelimiter (c : Char) : Bool :=
  isSeparator c || c = '#' || (TokenKind.ofPunctuation? c).isSome

def Delimits (rest : Text) : Prop :=
  ∀ c, rest.head? = some c → isDelimiter c = true

theorem delimits_nil : Delimits [] := by
  intro c impossible
  cases impossible

theorem delimits_cons {c : Char} (delimiter : isDelimiter c = true) (rest : Text) :
    Delimits (c :: rest) := by
  intro d same
  cases same
  exact delimiter

theorem mem_of_ofPunctuation? {c : Char} {kind : TokenKind}
    (known : TokenKind.ofPunctuation? c = some kind) :
    c ∈ ['\x7b', '\x7d', '(', ')', '[', ']', ':', '=', '!', '@'] := by
  unfold TokenKind.ofPunctuation? at known
  split at known <;> cases known <;> decide

theorem mem_of_isSeparator {c : Char} (separates : isSeparator c = true) :
    c ∈ [' ', '\t', '\r', '\n', '\x0c', ',', '\ufeff'] := by
  simpa [isSeparator, or_assoc] using separates

/-- No delimiter is part of a name, of a number or of a string in double quotes. -/
theorem apart_of_isDelimiter {c : Char} (delimiter : isDelimiter c = true) :
    isNameChar c = false ∧ c ≠ '.' ∧ c ≠ '"' := by
  rw [isDelimiter, Bool.or_eq_true, Bool.or_eq_true, decide_eq_true_eq,
    Option.isSome_iff_exists] at delimiter
  rcases delimiter with (separates | rfl) | ⟨kind, known⟩
  · have each : [' ', '\t', '\r', '\n', '\x0c', ',', '\ufeff'].all
        (fun d => !isNameChar d && d != '.' && d != '"') = true := by decide
    simpa [and_assoc] using List.all_eq_true.mp each c (mem_of_isSeparator separates)
  · decide
  · have each : ['\x7b', '\x7d', '(', ')', '[', ']', ':', '=', '!', '@'].all
        (fun d => !isNameChar d && d != '.' && d != '"') = true := by decide
    simpa [and_assoc] using List.all_eq_true.mp each c (mem_of_ofPunctuation? known)

namespace Delimits

variable {rest : Text}

theorem endsName (delimits : Delimits rest) : EndsName rest :=
  fun c first => (apart_of_isDelimiter (delimits c first)).1

theorem noQuote (delimits : Delimits rest) : rest.head? ≠ some '"' :=
  fun first => (apart_of_isDelimiter (delimits '"' first)).2.2 rfl

theorem noDigit (delimits : Delimits rest) : ∀ c, rest.head? = some c → c.isDigit = false := by
  intro c first
  have notName := delimits.endsName c first
  rw [isNameChar, Bool.or_eq_false_iff, Char.isAlphanum, Bool.or_eq_false_iff] at notName
  exact notName.1.2

end Delimits

theorem takeQuoted_of_fits {quote : Char} (notEscape : quote ≠ '\\') {inside : Text}
    (fits : FitsQuotes quote inside) (rest : Text) :
    takeQuoted quote (inside ++ quote :: rest) = (inside, quote :: rest) := by
  induction fits with
  | nil =>
      rw [List.nil_append, takeQuoted.eq_4 _ _ _ (fun isEscape _ => notEscape isEscape)
        (fun _ _ isEscape _ => notEscape isEscape), if_pos (by simp)]
  | @char c later notQuote plain notFeed _ ih =>
      rw [List.cons_append, takeQuoted.eq_4 _ _ _ (fun isEscape _ => plain isEscape)
        (fun _ _ isEscape _ => plain isEscape), if_neg (by simp [notQuote, notFeed]), ih]
  | escape notFeed _ ih => simp [takeQuoted, notFeed, ih]

theorem Piece.quoted_of_fits {kind : TokenKind} {quote : Char} (notEscape : quote ≠ '\\')
    {inside : Text} (fits : FitsQuotes quote inside) (rest : Text) :
    quoted kind quote (inside ++ quote :: rest) =
      ⟨some kind, quote :: inside ++ [quote], rest⟩ := by
  simp only [quoted, takeQuoted_of_fits notEscape fits, if_pos]

theorem Piece.next_stringLiteral {inside : Text} (fits : FitsQuotes '"' inside) {rest : Text}
    (noQuote : rest.head? ≠ some '"') : next '"' (inside ++ '"' :: rest) =
      ⟨some .stringLiteral, '"' :: inside ++ ['"'], rest⟩ := by
  have single : ∀ more, inside ++ '"' :: rest ≠ '"' :: '"' :: more := by
    intro more same
    cases fits with
    | nil => exact noQuote (by rw [(List.cons.inj same).2]; rfl)
    | char notQuote _ _ _ => exact notQuote (List.cons.inj same).1
    | escape _ _ => cases same
  rw [next_quote single]
  exact quoted_of_fits (by decide) fits rest

theorem Piece.next_singleQuoted {inside : Text} (fits : FitsQuotes '\x27' inside) (rest : Text) :
    next '\x27' (inside ++ '\x27' :: rest) =
      ⟨some .singleQuoted, '\x27' :: inside ++ ['\x27'], rest⟩ := by
  rw [next.eq_def, if_neg (by decide), if_pos rfl]
  exact quoted_of_fits (by decide) fits rest

theorem takeDigits_of_numeral {digits : Text} (numeral : IsNumeral digits) {rest : Text}
    (noDigit : ∀ c, rest.head? = some c → c.isDigit = false) :
    takeDigits (digits ++ rest) = (digits, rest) := by
  rw [takeDigits, List.takeWhile_append_of_pos numeral.digits,
    List.dropWhile_append_of_pos numeral.digits]
  cases rest with
  | nil => simp
  | cons c more => simp [noDigit c rfl]

theorem IsNumeral.exists_eq_cons {digits : Text} (numeral : IsNumeral digits) :
    ∃ d more, digits = d :: more ∧ d.isDigit = true := by
  cases digits with
  | nil => exact absurd rfl numeral.nonempty
  | cons d more => exact ⟨d, more, rfl, numeral.digits d List.mem_cons_self⟩

theorem ne_of_isDigit {c d : Char} (digit : c.isDigit = true) (other : d.isDigit = false) : c ≠ d := by
  rintro rfl
  rw [digit] at other
  cases other

theorem takeSign_of_numeral {sign digits : Text} (signs : sign = [] ∨ sign = ['+'] ∨ sign = ['-'])
    (numeral : IsNumeral digits) (rest : Text) :
    takeSign (sign ++ (digits ++ rest)) = (sign, digits ++ rest) := by
  rcases signs with rfl | rfl | rfl
  · obtain ⟨d, more, rfl, digit⟩ := numeral.exists_eq_cons
    have noPlus : d ≠ '+' := ne_of_isDigit digit (by decide)
    have noMinus : d ≠ '-' := ne_of_isDigit digit (by decide)
    simp [takeSign, noPlus, noMinus]
  · rfl
  · rfl

theorem takeExponent_of_exponent {exponent : Text} (ends : IsExponent exponent) {rest : Text}
    (delimits : Delimits rest) : takeExponent (exponent ++ rest) = (exponent, rest) := by
  cases ends with
  | none =>
      cases rest with
      | nil => rfl
      | cons c more =>
          have notName := delimits.endsName c rfl
          have noMark : c ≠ 'e' ∧ c ≠ 'E' := by
            constructor <;> rintro rfl <;> revert notName <;> decide
          simp [takeExponent, noMark]
  | @some mark sign digits marks signs numeral =>
      rw [List.cons_append, List.append_assoc, takeExponent, takeSign_of_numeral signs numeral]
      dsimp only
      rw [takeDigits_of_numeral numeral delimits.noDigit]
      have isMark : (decide (mark = 'e') || decide (mark = 'E')) = true := by
        rcases marks with rfl | rfl <;> rfl
      simp [isMark, numeral.nonempty]

theorem takeFraction_of_delimits {rest : Text} (delimits : Delimits rest) :
    takeFraction rest = ([], rest) := by
  cases rest with
  | nil => rfl
  | cons c more =>
      have noPoint := (apart_of_isDelimiter (delimits c rfl)).2.1
      simp [takeFraction, noPoint]

theorem takeFraction_of_fraction {fraction exponent : Text} (fractional : IsNumeral fraction)
    (ends : IsExponent exponent) {rest : Text} (delimits : Delimits rest) :
    takeFraction ('.' :: (fraction ++ (exponent ++ rest))) = ('.' :: fraction ++ exponent, rest) := by
  have noDigit : ∀ c, (exponent ++ rest).head? = some c → c.isDigit = false := by
    cases ends with
    | none => exact delimits.noDigit
    | some marks _ _ =>
        intro c first
        cases first
        rcases marks with rfl | rfl <;> decide
  rw [takeFraction, takeDigits_of_numeral fractional noDigit]
  dsimp only
  rw [takeExponent_of_exponent ends delimits]
  simp [fractional.nonempty]

theorem Piece.exists_next_number {sign digits : Text} (signs : sign = [] ∨ sign = ['-'])
    (numeral : IsNumeral digits) (unsigned : Text) :
    ∃ c tail, sign ++ (digits ++ unsigned) = c :: tail ∧
      next c tail = number sign (digits ++ unsigned) := by
  obtain ⟨d, more, rfl, digit⟩ := numeral.exists_eq_cons
  rcases signs with rfl | rfl
  · refine ⟨d, more ++ unsigned, rfl, ?_⟩
    have noQuote : d ≠ '"' := ne_of_isDigit digit (by decide)
    have noSingle : d ≠ '\x27' := ne_of_isDigit digit (by decide)
    have noSign : d ≠ '-' := ne_of_isDigit digit (by decide)
    rw [next.eq_def, if_neg noQuote, if_neg noSingle, if_neg (by simp [noSign]), if_pos digit]
    rfl
  · refine ⟨'-', d :: (more ++ unsigned), rfl, ?_⟩
    have signed : (decide ('-' = '-') && startsWithDigit (d :: (more ++ unsigned))) = true := by
      simp [startsWithDigit, digit]
    rw [next.eq_def, if_neg (by decide), if_neg (by decide), if_pos signed]
    rfl

def TokenKind.isMark : TokenKind → Bool
  | leftBrace | rightBrace | leftParen | rightParen | leftBracket | rightBracket | colon | equals
  | bang | atSign => true
  | _ => false

theorem TokenKind.ofIdentifier_not_isMark (text : Text) : (ofIdentifier text).isMark = false := by
  unfold ofIdentifier
  split
  · rfl
  split <;> rfl

/-- A text of a class is the longest token when a delimiter or the end of the text comes behind it.
Punctuation is so whatever comes behind it. -/
theorem Lexeme.InClass.exists_next {lexeme : Lexeme} (inClass : lexeme.InClass) {rest : Text}
    (ends : lexeme.kind.isMark = true ∨ Delimits rest) :
    ∃ c tail, lexeme.text ++ rest = c :: tail ∧
      Piece.next c tail = ⟨some lexeme.kind, lexeme.text, rest⟩ := by
  cases inClass with
  | mark known => exact ⟨_, rest, rfl, Piece.next_mark known rest⟩
  | @identifier text valid =>
      have delimits := ends.resolve_left (by simp [Lexeme.identifier, TokenKind.ofIdentifier_not_isMark])
      cases text with
      | nil => cases valid
      | cons c tail => exact ⟨c, tail ++ rest, rfl, Piece.next_identifier valid delimits.endsName⟩
  | stringLiteral fits =>
      have delimits := ends.resolve_left Bool.false_ne_true
      exact ⟨'"', _, by simp, Piece.next_stringLiteral fits delimits.noQuote⟩
  | singleQuoted fits => exact ⟨'\x27', _, by simp, Piece.next_singleQuoted fits rest⟩
  | block fits => exact ⟨'"', _, by simp [Lexeme.block], Piece.next_block fits rest⟩
  | @integer sign digits signs numeral =>
      have delimits := ends.resolve_left Bool.false_ne_true
      obtain ⟨c, tail, text, next⟩ := Piece.exists_next_number signs numeral rest
      refine ⟨c, tail, by rw [← text, List.append_assoc], ?_⟩
      rw [next, Piece.number, takeDigits_of_numeral numeral delimits.noDigit]
      simp [takeFraction_of_delimits delimits]
  | @float sign digits fraction exponent signs numeral fractional exponential =>
      have delimits := ends.resolve_left Bool.false_ne_true
      have noDigit : ∀ c, ('.' :: (fraction ++ (exponent ++ rest))).head? = some c →
          c.isDigit = false := by
        intro c first
        cases first
        decide
      obtain ⟨c, tail, text, next⟩ :=
        Piece.exists_next_number signs numeral ('.' :: (fraction ++ (exponent ++ rest)))
      refine ⟨c, tail, by rw [← text]; simp, ?_⟩
      rw [next, Piece.number, takeDigits_of_numeral numeral noDigit]
      simp [takeFraction_of_fraction fractional exponential delimits]

theorem Lexeme.InClass.delimits {lexeme : Lexeme} (inClass : lexeme.InClass)
    (isMark : lexeme.kind.isMark = true) (rest : Text) : Delimits (lexeme.text ++ rest) := by
  cases inClass with
  | @mark kind c known =>
      apply delimits_cons
      rw [isDelimiter, known]
      simp
  | identifier valid =>
      rw [Lexeme.identifier, TokenKind.ofIdentifier_not_isMark] at isMark
      cases isMark
  | _ => cases isMark

end SdlWorkbench
