import SdlWorkbench.Document.Reader
/-!
The text form of one directive.

`Directive.encode` writes every value in double quotes with its quotes and backslashes escaped, and
`Directive.decode` reads everything that a document accepts as a directive.
-/

namespace SdlWorkbench.Directive

def encodeEntry (entry : Text × Text) : Text :=
  entry.1 ++ ':' :: '"' :: entry.2.escape ++ ['"']

/-- A directive in canonical form, with its arguments in key order. -/
def encode (directive : Directive) : Text :=
  '@' :: directive.name.text ++
    (if directive.arguments.entries.isEmpty then []
     else '(' :: [','].intercalate (directive.arguments.entries.map encodeEntry) ++ [')'])

def ofTokens (tokens : List Token) : Except SyntaxError Directive :=
  match Production.directive tokens with
  | .failure error _ => .error error
  | .success directive [] => .ok directive
  | .success _ (token :: _) => .error (token.unexpected .directiveEnd)

def decode (text : Text) : Except (List SyntaxError) Directive :=
  match Token.ofText text with
  | .error spans => .error (spans.map SyntaxError.invalidToken)
  | .ok tokens => (ofTokens tokens).mapError fun error => [error]

end SdlWorkbench.Directive
