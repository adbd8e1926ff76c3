import SdlWorkbench.Proofs.Document.Description
import SdlWorkbench.Proofs.Token.Classified
import SdlWorkbench.Proofs.Token.Coverage
/-!
What a token holds for the reader.

The reader takes the quotes off a string by counting bytes, and it makes a name of every token whose kind
is that of names.  Neither can go wrong: a string has both of its quotes and a name is an identifier.
In turn the identifiers are just the texts that are one token, a name, from the first byte to the last.
-/

namespace SdlWorkbench

namespace Text

/-- The first `count` bytes of the UTF-8 form.  There is no answer when the text is shorter or when the
cut would fall inside a character. -/
def takeBytes? : Nat → Text → Option Text
  | 0, _ => some []
  | _ + 1, [] => none
  | count + 1, c :: rest =>
      if c.utf8Size ≤ count + 1 then
        (takeBytes? (count + 1 - c.utf8Size) rest).map fun taken => c :: taken
      else none

/-- The bytes from `start` up to, and not including, `stop`.  There is no answer when these are out of
order, when the text is shorter, or when one of them lies inside a character. -/
def slice? (start stop : Nat) (text : Text) : Option Text :=
  if start ≤ stop then (dropBytes? start text).bind (takeBytes? (stop - start)) else none

theorem takeBytes?_append (left right : Text) :
    takeBytes? (utf8Length left) (left ++ right) = some left := by
  induction left with
  | nil => simp [utf8Length, takeBytes?]
  | cons c rest ih =>
      have positive := c.utf8Size_pos
      rw [utf8Length, List.cons_append]
      cases sizeEq : c.utf8Size + utf8Length rest with
      | zero => omega
      | succ count =>
          have remaining : count + 1 - c.utf8Size = utf8Length rest := by omega
          rw [takeBytes?, if_pos (by omega), remaining, ih, Option.map_some]

theorem slice?_append (front inside back : Text) :
    slice? front.utf8Length (front ++ inside).utf8Length (front ++ (inside ++ back)) =
      some inside := by
  have long : (front ++ inside).utf8Length - front.utf8Length = inside.utf8Length := by
    rw [utf8Length_append]
    omega
  have ordered : front.utf8Length ≤ (front ++ inside).utf8Length := by
    rw [utf8Length_append]
    exact Nat.le_add_right _ _
  rw [slice?, if_pos ordered, long, dropBytes?_append, Option.bind_some, takeBytes?_append]

/-- Both ends of the text have `margin` bytes to give away, these are whole characters, and `inside` is
the slice between them. -/
structure Peels (text : Text) (margin : Nat) (inside : Text) : Prop where
  reaches : 2 * margin ≤ text.utf8Length
  begins : text.IsBoundary margin
  ends : text.IsBoundary (text.utf8Length - margin)
  slice : slice? margin (text.utf8Length - margin) text = some inside

theorem peels_quotes (quotes inside : Text) :
    Peels (quotes ++ (inside ++ quotes)) quotes.utf8Length inside := by
  have whole : (quotes ++ (inside ++ quotes)).utf8Length =
      (quotes ++ inside).utf8Length + quotes.utf8Length := by
    rw [← List.append_assoc, utf8Length_append]
  have atEnd : (quotes ++ (inside ++ quotes)).utf8Length - quotes.utf8Length =
      (quotes ++ inside).utf8Length := by
    rw [whole, Nat.add_sub_cancel]
  constructor
  case reaches =>
    rw [whole, utf8Length_append]
    omega
  case begins => exact ⟨quotes, inside ++ quotes, rfl, rfl⟩
  case ends =>
    rw [atEnd]
    exact ⟨quotes ++ inside, quotes, (List.append_assoc ..).symm, rfl⟩
  case slice =>
    rw [atEnd]
    exact slice?_append quotes inside quotes

end Text

namespace TokenKind

def isQuoted : TokenKind → Bool
  | stringLiteral | singleQuoted | blockString => true
  | _ => false

theorem ofIdentifier_eq_typeKeyword_iff (text : Text) :
    ofIdentifier text = typeKeyword ↔ text = "type".toList := by
  unfold ofIdentifier
  split
  · next isType => exact iff_of_true rfl isType
  · next notType => split <;> exact iff_of_false (by decide) notType

theorem ofIdentifier_eq_enumKeyword_iff (text : Text) :
    ofIdentifier text = enumKeyword ↔ text = "enum".toList := by
  unfold ofIdentifier
  split
  · next isType =>
      rw [isType]
      exact iff_of_false (by decide) (by decide)
  · split
    · next isEnum => exact iff_of_true rfl isEnum
    · next notEnum => exact iff_of_false (by decide) notEnum

theorem not_isQuoted_of_isName {kind : TokenKind} (isName : kind.isName = true) :
    kind.isQuoted = false := by
  cases kind <;> first | rfl | cases isName

theorem not_isQuoted_of_isMark {kind : TokenKind} (isMark : kind.isMark = true) :
    kind.isQuoted = false := by
  cases kind <;> first | rfl | cases isMark

end TokenKind

namespace Lexeme

/-- The text stands between quotes, which are `margin` bytes on either side. -/
structure Encloses (lexeme : Lexeme) (quotes : Text) (margin : Nat) (inside : Text) : Prop where
  quoted : lexeme.text = quotes ++ (inside ++ quotes)
  peels : lexeme.text.Peels margin inside

theorem encloses_quotes (kind : TokenKind) (quotes inside : Text) :
    Encloses ⟨kind, quotes ++ (inside ++ quotes)⟩ quotes quotes.utf8Length inside :=
  ⟨rfl, Text.peels_quotes quotes inside⟩

/-- What the reader relies on: a name is an identifier, and between the quotes of a string stands the
slice from which its value is made. -/
structure IsReadable (lexeme : Lexeme) : Prop where
  name : lexeme.kind.isName = true → isIdentifier lexeme.text = true
  stringLiteral : lexeme.kind = .stringLiteral → ∃ inside, lexeme.Encloses ['"'] 1 inside ∧
    lexeme.description? = some (Text.unescape '"' inside) ∧
    lexeme.argumentValue? = some (Text.unescape '"' inside)
  singleQuoted : lexeme.kind = .singleQuoted → ∃ inside, lexeme.Encloses ['\x27'] 1 inside ∧
    lexeme.argumentValue? = some (Text.unescape '\x27' inside)
  blockString : lexeme.kind = .blockString → ∃ inside, lexeme.Encloses ['"', '"', '"'] 3 inside ∧
    lexeme.description? = some (Text.blockValue inside)

theorem isReadable_of_not_isQuoted {lexeme : Lexeme} (bare : lexeme.kind.isQuoted = false)
    (named : lexeme.kind.isName = true → isIdentifier lexeme.text = true) : lexeme.IsReadable := by
  have noString : ∀ kind : TokenKind, kind.isQuoted = true → lexeme.kind ≠ kind := by
    rintro _ quoted rfl
    rw [bare] at quoted
    cases quoted
  constructor
  case name => exact named
  case stringLiteral => exact fun isString => absurd isString (noString _ rfl)
  case singleQuoted => exact fun isString => absurd isString (noString _ rfl)
  case blockString => exact fun isString => absurd isString (noString _ rfl)

theorem isReadable_stringLiteral (inside : Text) :
    IsReadable ⟨.stringLiteral, ['"'] ++ (inside ++ ['"'])⟩ := by
  have inner : ((['"'] ++ (inside ++ ['"'])).drop 1).dropLast = inside := by simp
  constructor
  case stringLiteral =>
    intro _
    refine ⟨inside, encloses_quotes _ ['"'] inside, ?_, ?_⟩
    · simp only [description?, inner]
    · simp only [argumentValue?, inner]
  all_goals
    intro isOther
    cases isOther

theorem isReadable_singleQuoted (inside : Text) :
    IsReadable ⟨.singleQuoted, ['\x27'] ++ (inside ++ ['\x27'])⟩ := by
  have inner : ((['\x27'] ++ (inside ++ ['\x27'])).drop 1).dropLast = inside := by simp
  constructor
  case singleQuoted =>
    intro _
    refine ⟨inside, encloses_quotes _ ['\x27'] inside, ?_⟩
    simp only [argumentValue?, inner]
  all_goals
    intro isOther
    cases isOther

theorem isReadable_block (inside : Text) : (block inside).IsReadable := by
  have quotes : (block inside).text = ['"', '"', '"'] ++ (inside ++ ['"', '"', '"']) :=
    List.append_assoc ..
  constructor
  case blockString =>
    intro _
    refine ⟨inside, ⟨quotes, ?_⟩, block_description? inside⟩
    rw [quotes]
    exact Text.peels_quotes ['"', '"', '"'] inside
  all_goals
    intro isOther
    cases isOther

theorem InClass.isReadable {lexeme : Lexeme} (inClass : lexeme.InClass) : lexeme.IsReadable := by
  cases inClass with
  | @mark kind c known =>
      have isMark := TokenKind.isMark_of_ofPunctuation? known
      refine isReadable_of_not_isQuoted (TokenKind.not_isQuoted_of_isMark isMark) ?_
      intro isName
      change kind.isName = true at isName
      rw [Piece.ofPunctuation?_not_isName known] at isName
      cases isName
  | @identifier text valid =>
      have isName := identifier_isName text
      exact isReadable_of_not_isQuoted (TokenKind.not_isQuoted_of_isName isName) fun _ => valid
  | @stringLiteral inside fits => exact isReadable_stringLiteral inside
  | @singleQuoted inside fits => exact isReadable_singleQuoted inside
  | @block inside fits => exact isReadable_block inside
  | integer signs numeral =>
      exact isReadable_of_not_isQuoted rfl fun isName => absurd isName Bool.false_ne_true
  | float signs numeral fractional ends =>
      exact isReadable_of_not_isQuoted rfl fun isName => absurd isName Bool.false_ne_true

end Lexeme

namespace Production

def ofNameKind (expected : Expected) : Production Token
  | [] => .failure (.unexpectedEnd expected) []
  | token :: rest =>
      if token.kind.isName then .success token rest
      else .failure (token.unexpected expected) rest

/-- Makes a name of a token that was read; `refuse` takes over when its text is no identifier. -/
def converted (refuse : Token → Production Name) (token : Token) : Production Name :=
  match Name.ofText? token.text with
  | some name => pure name
  | none => refuse token

/-- Looks at the kind of a token first, and at its text afterwards. -/
def nameInSteps (refuse : Token → Production Name) (expected : Expected) :
    Production (Token × Name) := do
  let token ← ofNameKind expected
  let name ← converted refuse token
  return (token, name)

/-- Where all names are identifiers no token is refused for its text. -/
theorem nameInSteps_eq_nameToken {tokens : List Token}
    (identified : ∀ token ∈ tokens, token.kind.isName = true → isIdentifier token.text = true)
    (refuse : Token → Production Name) (expected : Expected) :
    nameInSteps refuse expected tokens = nameToken expected tokens := by
  cases tokens with
  | nil => rfl
  | cons token rest =>
      simp only [nameInSteps, bind, Production.bind, ofNameKind, nameToken, Lexeme.name?]
      by_cases isName : token.kind.isName = true
      · have valid := identified token List.mem_cons_self isName
        have found : Name.ofText? token.text = some ⟨token.text, valid⟩ := dif_pos valid
        simp only [if_pos isName, converted, found]
        rfl
      · simp only [if_neg isName]

end Production

theorem Text.eq_nil_of_utf8Length {text : Text} (noBytes : text.utf8Length = 0) : text = [] := by
  by_contra nonempty
  have positive := utf8Length_pos nonempty
  omega

theorem SourceItem.span_eq_whole_iff {text : Text} {item : SourceItem}
    (member : item ∈ SourceItem.scan text) :
    item.span = ⟨0, text.utf8Length⟩ ↔ item.text = text := by
  obtain ⟨front, back, parts, place, -⟩ :=
    (SourceItem.scanFrom_cover 0 text).exists_isMatch (List.nil_append text).symm rfl item member
  constructor
  · intro whole
    rw [place, Span.mk.injEq] at whole
    have total := congrArg Text.utf8Length parts
    rw [Text.utf8Length_append, whole.2] at total
    have noFront := Text.eq_nil_of_utf8Length whole.1
    have noBack : back = [] := Text.eq_nil_of_utf8Length (by omega)
    rw [parts, noFront, noBack]
    simp
  · intro same
    have lengths := congrArg List.length parts
    rw [same] at lengths
    simp only [List.length_append] at lengths
    have noFront : front = [] := List.length_eq_zero_iff.mp (by omega)
    rw [place, noFront, same]
    rfl

namespace Token

variable {text : Text} {token : Token}

/-- The text is nothing but one token, and this is a name. -/
structure IsNameOf (token : Token) (text : Text) : Prop where
  alone : Token.ofText text = .ok [token]
  isName : token.kind.isName = true
  whole : token.span = ⟨0, text.utf8Length⟩

theorem IsNameOf.text_eq (names : token.IsNameOf text) : token.text = text :=
  (SourceItem.span_eq_whole_iff (item_mem_scan names.alone List.mem_cons_self)).mp names.whole

theorem IsNameOf.kind_eq (names : token.IsNameOf text) :
    token.kind = TokenKind.ofIdentifier text := by
  have inClass := Token.inClass_of_ofText names.alone token List.mem_cons_self
  have known := congrArg Lexeme.kind (inClass.eq_identifier names.isName)
  rw [names.text_eq] at known
  exact known

theorem exists_isNameOf (valid : isIdentifier text = true) : ∃ token : Token, token.IsNameOf text := by
  have reads := @Reads.identifier text valid [] delimits_nil.endsName
  rw [List.append_nil] at reads
  obtain ⟨tokens, read, same⟩ := reads.ofText
  obtain ⟨token, rfl, tokenEq⟩ := List.map_eq_singleton_iff.mp same
  have textEq : token.text = text := congrArg Lexeme.text tokenEq
  refine ⟨token, read, ?_, ?_⟩
  · rw [tokenEq]
    exact Lexeme.identifier_isName text
  · exact (SourceItem.span_eq_whole_iff (item_mem_scan read List.mem_cons_self)).mpr textEq

theorem isIdentifier_iff_exists_isNameOf :
    isIdentifier text = true ↔ ∃ token : Token, token.IsNameOf text := by
  constructor
  · exact exists_isNameOf
  · rintro ⟨token, names⟩
    rw [← names.text_eq]
    exact Token.isIdentifier_of_isName names.alone token List.mem_cons_self names.isName

/-- The lexer gives what the reader relies on.  Every token of a text, refused or not, can be read: no
slice leaves its text or cuts a character, and no token is refused as a name for its text.  A text is an
identifier exactly when it is one token, a name, and nothing else, and this token is a keyword exactly
for the texts of the two keywords. -/
theorem contents_fit_reader (text : Text) :
    (∀ token : Token, token.item ∈ SourceItem.scan text → token.IsReadable) ∧
    (∀ tokens, Token.ofText text = .ok tokens → ∀ rest, rest <:+ tokens → ∀ refuse expected,
      Production.nameInSteps refuse expected rest = Production.nameToken expected rest) ∧
    (isIdentifier text = true ↔ ∃ token : Token, token.IsNameOf text) ∧
    ∀ token : Token, token.IsNameOf text → token.text = text ∧
      (token.kind = .typeKeyword ↔ text = "type".toList) ∧
      (token.kind = .enumKeyword ↔ text = "enum".toList) := by
  refine ⟨?_, ?_, isIdentifier_iff_exists_isNameOf, ?_⟩
  · intro token member
    exact (SourceItem.inClass member rfl).isReadable
  · intro tokens read rest behind refuse expected
    apply Production.nameInSteps_eq_nameToken
    intro token member
    exact Token.isIdentifier_of_isName read token (behind.subset member)
  · intro token names
    rw [names.kind_eq]
    exact ⟨names.text_eq, TokenKind.ofIdentifier_eq_typeKeyword_iff text,
      TokenKind.ofIdentifier_eq_enumKeyword_iff text⟩

/-- Strings one behind the other, a keyword at a string, and a block with a quote of its own. -/
def touchingQuotes : Text :=
  "'é'\"\"type \"\"\"\"é\"\"\"".toList

def touchingTokens : List Token :=
  [⟨⟨.singleQuoted, "'é'".toList⟩, ⟨0, 4⟩⟩, ⟨⟨.stringLiteral, "\"\"".toList⟩, ⟨4, 6⟩⟩,
    ⟨⟨.typeKeyword, "type".toList⟩, ⟨6, 10⟩⟩,
    ⟨⟨.blockString, "\"\"\"\"é\"\"\"".toList⟩, ⟨11, 20⟩⟩]

theorem touchingTokens_fit_reader :
    (∀ token ∈ touchingTokens,
      token.item ∈ SourceItem.scan touchingQuotes ∧ token.IsReadable) ∧
    Token.ofText touchingQuotes = .ok touchingTokens ∧
    (∀ refuse, Production.nameInSteps refuse .typeName (touchingTokens.drop 2) =
      Production.nameToken .typeName (touchingTokens.drop 2)) ∧
    ∃ token : Token, token.IsNameOf "enum".toList ∧ token.kind = .enumKeyword := by
  have read : Token.ofText touchingQuotes = .ok touchingTokens := by decide +kernel
  obtain ⟨readable, named, -, -⟩ := contents_fit_reader touchingQuotes
  obtain ⟨-, -, single, keywords⟩ := contents_fit_reader "enum".toList
  obtain ⟨token, names⟩ := single.mp (by decide)
  refine ⟨?_, read, ?_, token, names, (keywords token names).2.2.mpr rfl⟩
  · intro token member
    have occurs := item_mem_scan read member
    exact ⟨occurs, readable token occurs⟩
  · intro refuse
    exact named touchingTokens read _ (List.drop_suffix 2 touchingTokens) refuse .typeName

end Token

end SdlWorkbench
