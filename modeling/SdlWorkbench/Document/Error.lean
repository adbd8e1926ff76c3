import SdlWorkbench.Token.Basic
/-!
Syntax errors: what a text lacks or has too much, and where.
-/

namespace SdlWorkbench

/-- What could have stood where something else was found, or where the text ended. -/
inductive Expected where
  | declarationKeyword
  | typeName
  | fieldName
  | fieldColon
  | listEnd
  | enumValue
  | directiveMark
  | directiveName
  | directiveEnd
  | argumentsEnd (directive : Name)
  | argument (directive : Name)
deriving DecidableEq

def Expected.describe : Expected → String
  | declarationKeyword => "'type' or 'enum'"
  | typeName => "type name"
  | fieldName => "field name"
  | fieldColon => "':' after field name"
  | listEnd => "']' to close list type"
  | enumValue => "enum value"
  | directiveMark => "'@'"
  | directiveName => "directive name"
  | directiveEnd => "end of directive"
  | argumentsEnd directive => s!"')' to close arguments of '@{directive}'"
  | argument directive => s!"argument of '@{directive}'"

inductive ArgumentFault where
  | noName (found : Lexeme)
  | noSeparator (key : Text) (found : Lexeme)
  | noValue (key : Text) (found : Lexeme)
deriving DecidableEq

def ArgumentFault.describe : ArgumentFault → String
  | noName found => s!"expected an argument name, found {found.describe}"
  | noSeparator key found => s!"expected ':' or '=' after '{key}', found {found.describe}"
  | noValue key found => s!"expected a value for '{key}', found {found.describe}"

inductive SyntaxError where
  | invalidToken (span : Span)
  | unexpectedToken (expected : Expected) (found : Lexeme) (span : Span)
  /-- The end of the text where a token was expected. -/
  | unexpectedEnd (expected : Expected)
  /-- A declaration that is neither a type nor an enum. -/
  | unsupportedDeclaration (keyword : Text) (span : Span)
  /-- A field name and a colon without a type after them. -/
  | missingFieldType (field : Text) (span : Span)
  /-- An argument that is not a name, a colon or equals sign, and a value. -/
  | malformedArgument (directive : Name) (fault : ArgumentFault) (span : Span)
deriving DecidableEq

namespace SyntaxError

/-- The bytes that an error points at; the end of the text has none. -/
def span? : SyntaxError → Option Span
  | invalidToken span => some span
  | unexpectedToken _ _ span => some span
  | unexpectedEnd _ => none
  | unsupportedDeclaration _ span => some span
  | missingFieldType _ span => some span
  | malformedArgument _ _ span => some span

def message : SyntaxError → String
  | invalidToken span => s!"invalid token at {span}"
  | unexpectedToken expected found span =>
      s!"unexpected token at {span}: expected {expected.describe}, found {found.describe}"
  | unexpectedEnd expected => s!"unexpected end of input: expected {expected.describe}"
  | unsupportedDeclaration keyword span =>
      s!"unsupported declaration '{keyword}' at {span}: only 'type' and 'enum' are supported"
  | missingFieldType field span => s!"field '{field}' at {span} has no type"
  | malformedArgument directive fault span =>
      s!"malformed argument of '@{directive}' at {span}: {fault.describe}"

end SyntaxError

def Token.unexpected (token : Token) (expected : Expected) : SyntaxError :=
  .unexpectedToken expected token.toLexeme token.span

end SdlWorkbench
