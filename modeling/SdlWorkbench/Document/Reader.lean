import SdlWorkbench.Document.Production
import SdlWorkbench.Schema.Basic
import SdlWorkbench.Text.Quoted
import SdlWorkbench.Text.Block
import SdlWorkbench.Token.Lexer
/-!
Reading a document.

The members of a declaration go on up to the header of the next one; braces around them are optional,
and a closing brace ends nothing.  After an error the reader looks for the next header and goes on
there, so one run reports the errors of all declarations.
-/

namespace SdlWorkbench

def unsupportedKeywords : List Text :=
  ["input".toList, "interface".toList, "union".toList, "scalar".toList, "schema".toList,
    "extend".toList, "directive".toList, "fragment".toList]

namespace Lexeme

def isUnsupportedKeyword (lexeme : Lexeme) : Bool :=
  lexeme.kind = .identifier && lexeme.text ∈ unsupportedKeywords

/-- Whether a token can introduce a declaration, supported or not. -/
def isDeclarationKeyword (lexeme : Lexeme) : Bool :=
  lexeme.kind = .typeKeyword || lexeme.kind = .enumKeyword || lexeme.isUnsupportedKeyword

def description? (lexeme : Lexeme) : Option Text :=
  match lexeme.kind with
  | .stringLiteral => some (Text.unescape '"' (lexeme.text.drop 1).dropLast)
  | .blockString =>
      some (Text.blockValue ((lexeme.text.drop 3).take (lexeme.text.length - 6)))
  | _ => none

def argumentValue? (lexeme : Lexeme) : Option Text :=
  match lexeme.kind with
  | .stringLiteral => some (Text.unescape '"' (lexeme.text.drop 1).dropLast)
  | .singleQuoted => some (Text.unescape '\x27' (lexeme.text.drop 1).dropLast)
  | .identifier | .typeKeyword | .enumKeyword | .integer | .float => some lexeme.text
  | _ => none

end Lexeme

/-- Whether a header may end before the given tokens.  Outside braces only a colon prevents it, since
the name before a colon is a field.  Inside braces the name has to be followed by a brace, a
directive or the end, so that an enum value such as `type` stays a value. -/
def endsHeader (inBraces : Bool) : List Token → Bool
  | [] => true
  | token :: _ =>
      if inBraces then token.kind = .leftBrace || token.kind = .atSign else token.kind ≠ .colon

def afterDescription : List Token → List Token
  | [] => []
  | token :: rest => if token.kind.isDescription then rest else token :: rest

/-- Whether the tokens start with the header of a declaration: an optional description, a keyword and
a name. -/
def startsDeclaration (inBraces : Bool) (tokens : List Token) : Bool :=
  match afterDescription tokens with
  | keyword :: name :: after =>
      keyword.isDeclarationKeyword && name.kind.isName && endsHeader inBraces after
  | _ => false

def startsTypeReference (inBraces : Bool) (tokens : List Token) : Bool :=
  match tokens with
  | [] => false
  | [name] => name.kind.isName && !startsDeclaration inBraces [name]
  | name :: next :: rest =>
      name.kind.isName && next.kind ≠ .colon && !startsDeclaration inBraces (name :: next :: rest)

namespace Production

def description : Production (Option Text)
  | [] => .success none []
  | token :: rest =>
      match token.description? with
      | some text => .success (some text) rest
      | none => .success none (token :: rest)

/-- Reads arguments up to the closing parenthesis.  A later value of a key takes the place of an
earlier one. -/
def arguments (directive : Name) (bound : Arguments) : Production Arguments
  | [] => .failure (.unexpectedEnd (.argumentsEnd directive)) []
  | key :: afterKey =>
      if key.kind = .rightParen then .success bound afterKey
      else if !key.kind.isName then
        .failure (.malformedArgument directive (.noName key.toLexeme) key.span) afterKey
      else
        match afterKey with
        | [] => .failure (.unexpectedEnd (.argument directive)) []
        | separator :: afterSeparator =>
            if separator.kind ≠ .colon && separator.kind ≠ .equals then
              .failure (.malformedArgument directive (.noSeparator key.text separator.toLexeme)
                (key.span.through separator.span)) afterSeparator
            else
              match afterSeparator with
              | [] => .failure (.unexpectedEnd (.argument directive)) []
              | value :: rest =>
                  match value.argumentValue? with
                  | some text => arguments directive (bound.insert key.text text) rest
                  | none =>
                      .failure (.malformedArgument directive (.noValue key.text value.toLexeme)
                        (key.span.through value.span)) rest

def optionalArguments (directive : Name) : Production Arguments := do
  match ← optional .leftParen with
  | some _ => arguments directive Arguments.empty
  | none => return Arguments.empty

def directive : Production Directive := do
  let _ ← token .atSign .directiveMark
  let name ← name .directiveName
  let arguments ← optionalArguments name
  return { name := name, arguments := arguments }

/-- A description in front takes nothing away from a production that consumes. -/
theorem consumes_description_bind {α : Type} {next : Option Text → Production α}
    (nextConsumes : ∀ text, Consumes (next text)) : Consumes (description >>= next) := by
  intro tokens
  cases tokens with
  | nil => exact nextConsumes none []
  | cons first rest =>
      simp only [bind, Production.bind, description]
      cases first.description? with
      | none => exact nextConsumes none (first :: rest)
      | some text => exact (nextConsumes (some text)).shrinks rest

theorem shrinks_arguments (directive : Name) (bound : Arguments) :
    Shrinks (arguments directive bound) := by
  intro tokens
  fun_induction arguments directive bound tokens <;> simp_all [Parsed.rest] <;> omega

theorem shrinks_optionalArguments (directive : Name) : Shrinks (optionalArguments directive) := by
  refine shrinks_bind (shrinks_optional _) ?_
  intro parenthesis
  cases parenthesis with
  | none => exact shrinks_pure _
  | some _ => exact shrinks_arguments _ _

theorem consumes_directive : Consumes directive := by
  refine consumes_bind (consumes_token _ _) fun _ => ?_
  refine shrinks_bind (consumes_name _).shrinks fun _ => ?_
  refine shrinks_bind (shrinks_optionalArguments _) fun _ => ?_
  exact shrinks_pure _

def directives : Production (List Directive)
  | [] => .success [] []
  | token :: rest =>
      if token.kind = .atSign then
        match _parsed : directive (token :: rest) with
        | .success first left => (directives left).map (first :: ·)
        | .failure error left => .failure error left
      else .success [] (token :: rest)
termination_by tokens => tokens.length
decreasing_by
  have consumed := consumes_directive.length_lt token rest
  rw [_parsed] at consumed
  exact consumed

theorem shrinks_directives : Shrinks directives := by
  intro tokens
  fun_induction directives tokens with
  | case1 => simp [Parsed.rest]
  | case2 token rest _ first left parsed inductionHypothesis =>
      have consumed := consumes_directive.length_lt token rest
      rw [parsed] at consumed
      simp only [Parsed.rest_map]
      exact Nat.le_trans inductionHypothesis (Nat.le_of_lt consumed)
  | case3 token rest _ error left parsed =>
      have consumed := consumes_directive.length_lt token rest
      rw [parsed] at consumed
      exact Nat.le_of_lt consumed
  | case4 => simp [Parsed.rest]

/-- Reads the name of a field's type after an opening bracket or colon.  When the tokens do not start
with a type reference, nothing is read, and the error points at the field up to the next token. -/
def typeReference (inBraces : Bool) (field previous : Token) : Production Name
  | [] => .failure (.missingFieldType field.text (field.span.upTo previous.span.after)) []
  | token :: rest =>
      if startsTypeReference inBraces (token :: rest) then name .typeName (token :: rest)
      else .failure (.missingFieldType field.text (field.span.upTo token.span)) (token :: rest)

/-- Reads a type after the colon of a field: its name, whether it is a list and whether it is
required.  An exclamation mark counts inside the brackets and after them. -/
def fieldType (inBraces : Bool) (field colon : Token) : Production (Name × Bool × Bool) := do
  match ← optional .leftBracket with
  | none =>
      let name ← typeReference inBraces field colon
      let mark ← optional .bang
      return (name, false, mark.isSome)
  | some bracket =>
      let name ← typeReference inBraces field bracket
      let inner ← optional .bang
      let _ ← token .rightBracket .listEnd
      let outer ← optional .bang
      return (name, true, inner.isSome || outer.isSome)

def describedField (inBraces : Bool) (description : Option Text) : Production Field := do
  let (fieldToken, name) ← nameToken .fieldName
  let colon ← token .colon .fieldColon
  let (typeName, isList, isRequired) ← fieldType inBraces fieldToken colon
  let directives ← directives
  return { name, typeName, isList, isRequired, description, directives }

def field (inBraces : Bool) : Production Field := do
  describedField inBraces (← description)

theorem shrinks_typeReference (inBraces : Bool) (field previous : Token) :
    Shrinks (typeReference inBraces field previous) := by
  intro tokens
  cases tokens with
  | nil => simp [typeReference, Parsed.rest]
  | cons first rest =>
      simp only [typeReference]
      split
      · exact (consumes_name _).shrinks _
      · exact Nat.le_refl _

theorem shrinks_fieldType (inBraces : Bool) (field colon : Token) :
    Shrinks (fieldType inBraces field colon) := by
  refine shrinks_bind (shrinks_optional _) fun bracket => ?_
  cases bracket with
  | none =>
      refine shrinks_bind (shrinks_typeReference _ _ _) fun _ => ?_
      refine shrinks_bind (shrinks_optional _) fun _ => ?_
      exact shrinks_pure _
  | some bracket =>
      refine shrinks_bind (shrinks_typeReference _ _ _) fun _ => ?_
      refine shrinks_bind (shrinks_optional _) fun _ => ?_
      refine shrinks_bind (consumes_token _ _).shrinks fun _ => ?_
      refine shrinks_bind (shrinks_optional _) fun _ => ?_
      exact shrinks_pure _

theorem consumes_describedField (inBraces : Bool) (description : Option Text) :
    Consumes (describedField inBraces description) := by
  refine consumes_bind (consumes_nameToken _) fun _ => ?_
  refine shrinks_bind (consumes_token _ _).shrinks fun _ => ?_
  refine shrinks_bind (shrinks_fieldType _ _ _) fun _ => ?_
  refine shrinks_bind shrinks_directives fun _ => ?_
  exact shrinks_pure _

theorem consumes_field (inBraces : Bool) : Consumes (field inBraces) :=
  consumes_description_bind fun description => consumes_describedField inBraces description

def fields (inBraces : Bool) : Production (List Field)
  | [] => .success [] []
  | token :: rest =>
      if token.kind = .rightBrace then fields false rest
      else if startsDeclaration inBraces (token :: rest) then .success [] (token :: rest)
      else
        match _parsed : field inBraces (token :: rest) with
        | .success first left => (fields inBraces left).map (first :: ·)
        | .failure error left => .failure error left
termination_by tokens => tokens.length
decreasing_by
  · exact Nat.lt_succ_self _
  · have consumed := (consumes_field inBraces).length_lt token rest
    rw [_parsed] at consumed
    exact consumed

/-- Reads enum values up to the next declaration.  Their descriptions and directives are read and
left out. -/
def values (inBraces : Bool) : Production (List Name)
  | [] => .success [] []
  | token :: rest =>
      if token.kind = .rightBrace then values false rest
      else if startsDeclaration inBraces (token :: rest) then .success [] (token :: rest)
      else if token.kind.isDescription then values inBraces rest
      else
        match token.name? with
        | none => .failure (token.unexpected .enumValue) rest
        | some value =>
            match _parsed : directives rest with
            | .success _ left => (values inBraces left).map (value :: ·)
            | .failure error left => .failure error left
termination_by tokens => tokens.length
decreasing_by
  · exact Nat.lt_succ_self _
  · exact Nat.lt_succ_self _
  · have shrunk := shrinks_directives rest
    rw [_parsed] at shrunk
    exact Nat.lt_succ_of_le shrunk

theorem shrinks_fields (inBraces : Bool) : Shrinks (fields inBraces) := by
  intro tokens
  fun_induction fields inBraces tokens with
  | case1 => simp [Parsed.rest]
  | case2 _ _ _ _ inductionHypothesis => exact Nat.le_succ_of_le inductionHypothesis
  | case3 => simp [Parsed.rest]
  | case4 inBraces token rest _ _ first left parsed inductionHypothesis =>
      have consumed := (consumes_field inBraces).length_lt token rest
      rw [parsed] at consumed
      simp only [Parsed.rest_map]
      exact Nat.le_trans inductionHypothesis (Nat.le_of_lt consumed)
  | case5 inBraces token rest _ _ error left parsed =>
      have consumed := (consumes_field inBraces).length_lt token rest
      rw [parsed] at consumed
      exact Nat.le_of_lt consumed

theorem shrinks_values (inBraces : Bool) : Shrinks (values inBraces) := by
  intro tokens
  fun_induction values inBraces tokens with
  | case1 => simp [Parsed.rest]
  | case2 _ _ _ _ inductionHypothesis => exact Nat.le_succ_of_le inductionHypothesis
  | case3 => simp [Parsed.rest]
  | case4 _ _ _ _ _ _ inductionHypothesis => exact Nat.le_succ_of_le inductionHypothesis
  | case5 => simp [Parsed.rest]
  | case6 inBraces token rest _ _ _ value _ dropped left parsed inductionHypothesis =>
      have shrunk := shrinks_directives rest
      rw [parsed] at shrunk
      simp only [Parsed.rest_map]
      exact Nat.le_trans inductionHypothesis (Nat.le_succ_of_le shrunk)
  | case7 inBraces token rest _ _ _ value _ error left parsed =>
      have shrunk := shrinks_directives rest
      rw [parsed] at shrunk
      exact Nat.le_succ_of_le shrunk

def declarationKeyword : Production TypeKind
  | [] => .failure (.unexpectedEnd .declarationKeyword) []
  | token :: rest =>
      if token.kind = .typeKeyword then .success .object rest
      else if token.kind = .enumKeyword then .success .enumeration rest
      else if token.toLexeme.isUnsupportedKeyword then
        .failure (.unsupportedDeclaration token.text token.span) rest
      else .failure (token.unexpected .declarationKeyword) rest

def body (kind : TypeKind) (inBraces : Bool) : Production (Body Field) :=
  match kind with
  | .object => fun tokens => (fields inBraces tokens).map Body.object
  | .enumeration => fun tokens => (values inBraces tokens).map Body.enumeration

def describedDeclaration (description : Option Text) : Production (Declaration Field) := do
  let kind ← declarationKeyword
  let name ← name .typeName
  let directives ← directives
  let brace ← optional .leftBrace
  let body ← body kind brace.isSome
  return { name, description, directives, body }

def declaration : Production (Declaration Field) := do
  describedDeclaration (← description)

theorem consumes_declarationKeyword : Consumes declarationKeyword := by
  intro tokens
  cases tokens with
  | nil => simp [declarationKeyword, Parsed.rest]
  | cons first rest =>
      simp only [declarationKeyword]
      repeat' split
      all_goals simp [Parsed.rest]

theorem shrinks_body (kind : TypeKind) (inBraces : Bool) : Shrinks (body kind inBraces) := by
  intro tokens
  cases kind with
  | object =>
      simp only [body, Parsed.rest_map]
      exact shrinks_fields inBraces tokens
  | enumeration =>
      simp only [body, Parsed.rest_map]
      exact shrinks_values inBraces tokens

theorem consumes_describedDeclaration (description : Option Text) :
    Consumes (describedDeclaration description) := by
  refine consumes_bind consumes_declarationKeyword fun _ => ?_
  refine shrinks_bind (consumes_name _).shrinks fun _ => ?_
  refine shrinks_bind shrinks_directives fun _ => ?_
  refine shrinks_bind (shrinks_optional _) fun _ => ?_
  refine shrinks_bind (shrinks_body _ _) fun _ => ?_
  exact shrinks_pure _

theorem consumes_declaration : Consumes declaration :=
  consumes_description_bind consumes_describedDeclaration

end Production

def skipToDeclaration : List Token → List Token
  | [] => []
  | token :: rest =>
      if startsDeclaration false (token :: rest) then token :: rest else skipToDeclaration rest

theorem skipToDeclaration_length_le (tokens : List Token) :
    (skipToDeclaration tokens).length ≤ tokens.length := by
  fun_induction skipToDeclaration tokens with
  | case1 => simp
  | case2 => simp
  | case3 _ _ _ inductionHypothesis => exact Nat.le_succ_of_le inductionHypothesis

namespace Document

/-- The declarations that are read one after the other, each of them or its error. -/
def attempts : List Token → List (Except SyntaxError (Declaration Field))
  | [] => []
  | token :: rest =>
      match _parsed : Production.declaration (token :: rest) with
      | .success declaration left => .ok declaration :: attempts left
      | .failure error left => .error error :: attempts (skipToDeclaration left)
termination_by tokens => tokens.length
decreasing_by
  · have consumed := Production.consumes_declaration.length_lt token rest
    rw [_parsed] at consumed
    exact consumed
  · have consumed := Production.consumes_declaration.length_lt token rest
    rw [_parsed] at consumed
    exact Nat.lt_of_le_of_lt (skipToDeclaration_length_le left) consumed

def failed? {α : Type} : Except SyntaxError α → Option SyntaxError
  | .ok _ => none
  | .error error => some error

/-- The values of a list of attempts when all have succeeded, otherwise the errors of all that have
not. -/
def collect {α : Type} (attempts : List (Except SyntaxError α)) :
    Except (List SyntaxError) (List α) :=
  match attempts.filterMap failed? with
  | [] => .ok (attempts.filterMap Except.toOption)
  | errors => .error errors

def ofTokens (tokens : List Token) : Except (List SyntaxError) Document :=
  collect (attempts tokens)

/-- Reads a document.  Text that is no token is reported alone. -/
def ofText (text : Text) : Except (List SyntaxError) Document :=
  match Token.ofText text with
  | .ok tokens => ofTokens tokens
  | .error spans => .error (spans.map SyntaxError.invalidToken)

end Document

end SdlWorkbench
