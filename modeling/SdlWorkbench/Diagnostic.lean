import SdlWorkbench.Document.Error
/-!
Diagnostics: syntax errors with a label at a place in the source text and a hint.

Every label covers at least one byte.  The end of the text is shown at its last byte.
-/

namespace SdlWorkbench

structure Diagnostic where
  message : String
  label : String
  /-- The first byte that the label covers. -/
  offset : Nat
  /-- The number of bytes that the label covers. -/
  length : Nat
  help : Option String
deriving DecidableEq

namespace Diagnostic

def ofError (source : Text) : SyntaxError → Diagnostic
  | .invalidToken span =>
      ⟨"invalid token", "unrecognized token", span.start, span.length,
        some "Check for typos or characters SDL does not allow."⟩
  | .unexpectedToken expected found span =>
      ⟨s!"unexpected token: expected {expected.describe}, found {found.describe}",
        s!"expected {expected.describe}", span.start, span.length, none⟩
  | .unexpectedEnd expected =>
      ⟨s!"unexpected end of input: expected {expected.describe}", "input ended here",
        source.utf8Length - 1, 1,
        some s!"Add {expected.describe} to complete the declaration."⟩
  | .unsupportedDeclaration keyword span =>
      ⟨s!"unsupported declaration '{keyword}'", "only 'type' and 'enum' are supported",
        span.start, span.length,
        some s!"Remove the '{keyword}' declaration; the rest of the file is still read."⟩
  | .missingFieldType field span =>
      ⟨s!"field '{field}' has no type", "expected a type after ':'", span.start, span.length,
        some s!"Add a type, e.g. '{field}: String'."⟩
  | .malformedArgument directive fault span =>
      ⟨s!"malformed argument of '@{directive}': {fault.describe}", "malformed argument",
        span.start, span.length, some "Write arguments as name: \"value\"."⟩

/-- A diagnostic over several lines, each ended by a line feed. -/
def render (file : Text) (diagnostic : Diagnostic) : String :=
  let help := match diagnostic.help with
    | none => ""
    | some text => s!"  help: {text}\n"
  s!"{file}: {diagnostic.message}\n" ++
    s!"  at byte {diagnostic.offset}, {diagnostic.length} long: {diagnostic.label}\n" ++ help

end Diagnostic

end SdlWorkbench
