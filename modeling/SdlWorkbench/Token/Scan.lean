import SdlWorkbench.Token.Basic
/-!
Reading one token off the front of a text.

Each function here splits a text in two: what it takes and what is left.  The two parts always make
up the text again, and `Piece.next` always takes something, so a text is a sequence of pieces.
Of several ways to read a token the longest is taken.
-/

namespace SdlWorkbench

def isSeparator (c : Char) : Bool :=
  c = ' ' || c = '\t' || c = '\r' || c = '\n' || c = '\x0c' || c = ',' || c = '\ufeff'

/-- Takes separators and comments.  A comment runs from `#` up to the end of its line; `inComment`
says that the text starts inside one. -/
def takeIgnored (inComment : Bool) : Text → Text × Text
  | [] => ([], [])
  | c :: rest =>
      if inComment || isSeparator c || c = '#' then
        let ignored := takeIgnored (if inComment then c != '\n' else c = '#') rest
        (c :: ignored.1, ignored.2)
      else ([], c :: rest)

/-- Takes the longest run of characters and escapes that may stand between two `quote` marks on one
line.  An escape is a backslash with any character but a line feed. -/
def takeQuoted (quote : Char) : Text → Text × Text
  | [] => ([], [])
  | '\\' :: [] => ([], ['\\'])
  | '\\' :: c :: rest =>
      if c = '\n' then ([], '\\' :: c :: rest)
      else
        let (taken, left) := takeQuoted quote rest
        ('\\' :: c :: taken, left)
  | c :: rest =>
      if c = quote || c = '\n' then ([], c :: rest)
      else
        let (taken, left) := takeQuoted quote rest
        (c :: taken, left)

/-- Takes the longest run that may stand inside a block string.  Up to two double quotes may stand
there when another character follows them. -/
def takeBlock : Text → Text × Text
  | [] => ([], [])
  | ['"'] => ([], ['"'])
  | ['"', '"'] => ([], ['"', '"'])
  | '"' :: '"' :: '"' :: rest => ([], '"' :: '"' :: '"' :: rest)
  | '"' :: '"' :: c :: rest =>
      let (taken, left) := takeBlock rest
      ('"' :: '"' :: c :: taken, left)
  | '"' :: c :: rest =>
      let (taken, left) := takeBlock rest
      ('"' :: c :: taken, left)
  | c :: rest =>
      let (taken, left) := takeBlock rest
      (c :: taken, left)

def takeDigits (text : Text) : Text × Text :=
  (text.takeWhile Char.isDigit, text.dropWhile Char.isDigit)

def takeSign : Text → Text × Text
  | [] => ([], [])
  | c :: rest => if c = '+' || c = '-' then ([c], rest) else ([], c :: rest)

/-- Takes the exponent of a float, or nothing when no digits follow the mark and its sign. -/
def takeExponent : Text → Text × Text
  | [] => ([], [])
  | mark :: rest =>
      let signed := takeSign rest
      let digits := takeDigits signed.2
      if (mark = 'e' || mark = 'E') && !digits.1.isEmpty then
        (mark :: signed.1 ++ digits.1, digits.2)
      else ([], mark :: rest)

/-- Takes the fraction of a float with its exponent, or nothing when no digits follow the point. -/
def takeFraction : Text → Text × Text
  | [] => ([], [])
  | point :: rest =>
      let digits := takeDigits rest
      let exponent := takeExponent digits.2
      if point = '.' && !digits.1.isEmpty then (point :: digits.1 ++ exponent.1, exponent.2)
      else ([], point :: rest)

/-- What is read off the front of a text: a token, or text that is no token when there is no kind. -/
structure Piece where
  kind : Option TokenKind
  text : Text
  rest : Text

namespace Piece

/-- A block string after its opening quotes, or those quotes with all that could stand inside. -/
def block (afterQuotes : Text) : Piece :=
  let inside := takeBlock afterQuotes
  match inside.2 with
  | '"' :: '"' :: '"' :: rest =>
      ⟨some .blockString, '"' :: '"' :: '"' :: inside.1 ++ ['"', '"', '"'], rest⟩
  | rest => ⟨none, '"' :: '"' :: '"' :: inside.1, rest⟩

def quoted (kind : TokenKind) (quote : Char) (afterQuote : Text) : Piece :=
  let inside := takeQuoted quote afterQuote
  match inside.2 with
  | [] => ⟨none, quote :: inside.1, []⟩
  | c :: rest =>
      if c = quote then ⟨some kind, quote :: inside.1 ++ [quote], rest⟩
      else ⟨none, quote :: inside.1, c :: rest⟩

def number (sign unsigned : Text) : Piece :=
  let digits := takeDigits unsigned
  let fraction := takeFraction digits.2
  ⟨some (if fraction.1.isEmpty then .integer else .float), sign ++ digits.1 ++ fraction.1,
    fraction.2⟩

def startsWithDigit : Text → Bool
  | [] => false
  | c :: _ => c.isDigit

def next (c : Char) (rest : Text) : Piece :=
  if c = '"' then
    match rest with
    | '"' :: '"' :: inside => block inside
    | _ => quoted .stringLiteral '"' rest
  else if c = '\x27' then quoted .singleQuoted '\x27' rest
  else if c = '-' && startsWithDigit rest then number ['-'] rest
  else if c.isDigit then number [] (c :: rest)
  else if isNameStart c then
    let text := c :: rest.takeWhile isNameChar
    ⟨some (TokenKind.ofIdentifier text), text, rest.dropWhile isNameChar⟩
  else ⟨TokenKind.ofPunctuation? c, [c], rest⟩

end Piece

end SdlWorkbench
