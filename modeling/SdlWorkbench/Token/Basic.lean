import SdlWorkbench.Name
/-!
Tokens: the words of a source text, each with the bytes it covers.

A `Lexeme` is a kind with a text.  A `Token` is a lexeme at a place, and the place is a `Span` of byte
offsets.
-/

namespace SdlWorkbench

/-- The bytes from `start` up to, and not including, `stop`. -/
structure Span where
  start : Nat
  stop : Nat
deriving DecidableEq

namespace Span

instance : ToString Span := ⟨fun span => s!"{span.start}..{span.stop}"⟩

def length (span : Span) : Nat :=
  span.stop - span.start

/-- From the start of the first span to the end of the second. -/
def through (first last : Span) : Span :=
  ⟨first.start, last.stop⟩

/-- From the start of the first span up to the start of the second, and never less than the first. -/
def upTo (first next : Span) : Span :=
  ⟨first.start, max next.start first.stop⟩

def after (span : Span) : Span :=
  ⟨span.stop, span.stop⟩

end Span

inductive TokenKind where
  | typeKeyword
  | enumKeyword
  | leftBrace
  | rightBrace
  | leftParen
  | rightParen
  | leftBracket
  | rightBracket
  | colon
  | equals
  | bang
  | atSign
  | blockString
  | stringLiteral
  | singleQuoted
  | integer
  | float
  | identifier
deriving DecidableEq

namespace TokenKind

def describe : TokenKind → String
  | typeKeyword => "'type'"
  | enumKeyword => "'enum'"
  | leftBrace => "'\x7b'"
  | rightBrace => "'\x7d'"
  | leftParen => "'('"
  | rightParen => "')'"
  | leftBracket => "'['"
  | rightBracket => "']'"
  | colon => "':'"
  | equals => "'='"
  | bang => "'!'"
  | atSign => "'@'"
  | blockString => "block string"
  | stringLiteral => "string literal"
  | singleQuoted => "single-quoted string"
  | integer => "integer literal"
  | float => "float literal"
  | identifier => "identifier"

/-- The kinds whose texts are names.  A keyword is a name wherever a name is expected. -/
def isName : TokenKind → Bool
  | typeKeyword | enumKeyword | identifier => true
  | _ => false

def isDescription : TokenKind → Bool
  | stringLiteral | blockString => true
  | _ => false

def ofPunctuation? : Char → Option TokenKind
  | '\x7b' => some leftBrace
  | '\x7d' => some rightBrace
  | '(' => some leftParen
  | ')' => some rightParen
  | '[' => some leftBracket
  | ']' => some rightBracket
  | ':' => some colon
  | '=' => some equals
  | '!' => some bang
  | '@' => some atSign
  | _ => none

def ofIdentifier (text : Text) : TokenKind :=
  if text = "type".toList then typeKeyword
  else if text = "enum".toList then enumKeyword
  else identifier

end TokenKind

/-- A token without its place. -/
structure Lexeme where
  kind : TokenKind
  text : Text
deriving DecidableEq

namespace Lexeme

def describe (lexeme : Lexeme) : String :=
  s!"{lexeme.kind.describe} ('{lexeme.text}')"

def name? (lexeme : Lexeme) : Option Name :=
  if lexeme.kind.isName then Name.ofText? lexeme.text else none

end Lexeme

structure Token extends Lexeme where
  span : Span
deriving DecidableEq

end SdlWorkbench
