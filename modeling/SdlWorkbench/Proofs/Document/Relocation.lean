import SdlWorkbench.Proofs.Document.Productions
import SdlWorkbench.Proofs.Token.Joining
/-!
Reading does not look at places.

A relocation moves spans in a way that agrees with how the reader combines them.  Reading relocated
tokens gives the same declarations and the relocated errors, because no production decides anything by
a span.
-/

namespace SdlWorkbench

/-- A change of spans that agrees with the spans that errors are given. -/
structure Relocation where
  move : Span → Span
  through : ∀ first last, move (first.through last) = (move first).through (move last)
  upTo : ∀ first next, move (first.upTo next) = (move first).upTo (move next)
  after : ∀ span, move span.after = (move span).after

namespace Relocation

def shift (count : Nat) : Relocation where
  move := Span.shift count
  through := fun _ _ => rfl
  upTo := by
    intro first next
    simp only [Span.upTo, Span.shift, Span.mk.injEq, true_and]
    omega
  after := fun _ => rfl

end Relocation

abbrev Token.relocate (relocation : Relocation) (token : Token) : Token :=
  { token with span := relocation.move token.span }

def SyntaxError.relocate (relocation : Relocation) : SyntaxError → SyntaxError
  | invalidToken span => invalidToken (relocation.move span)
  | unexpectedToken expected found span => unexpectedToken expected found (relocation.move span)
  | unexpectedEnd expected => unexpectedEnd expected
  | unsupportedDeclaration keyword span => unsupportedDeclaration keyword (relocation.move span)
  | missingFieldType field span => missingFieldType field (relocation.move span)
  | malformedArgument directive fault span =>
      malformedArgument directive fault (relocation.move span)

variable (relocation : Relocation)

theorem afterDescription_relocate (tokens : List Token) :
    afterDescription (tokens.map (Token.relocate relocation)) =
      (afterDescription tokens).map (Token.relocate relocation) := by
  cases tokens with
  | nil => rfl
  | cons first rest =>
      simp only [List.map_cons, afterDescription]
      by_cases describes : first.kind.isDescription = true
      · rw [if_pos describes, if_pos describes]
      · rw [if_neg describes, if_neg describes]
        rfl

theorem endsHeader_relocate (inBraces : Bool) (tokens : List Token) :
    endsHeader inBraces (tokens.map (Token.relocate relocation)) = endsHeader inBraces tokens := by
  cases tokens <;> rfl

theorem startsDeclaration_relocate (inBraces : Bool) (tokens : List Token) :
    startsDeclaration inBraces (tokens.map (Token.relocate relocation)) =
      startsDeclaration inBraces tokens := by
  rw [startsDeclaration, afterDescription_relocate, startsDeclaration]
  match afterDescription tokens with
  | [] => rfl
  | [_] => rfl
  | keyword :: name :: after =>
      simp only [List.map_cons, endsHeader_relocate]

theorem startsDeclaration_relocate_cons (inBraces : Bool) (first : Token) (rest : List Token) :
    startsDeclaration inBraces
      (first.relocate relocation :: rest.map (Token.relocate relocation)) =
        startsDeclaration inBraces (first :: rest) :=
  startsDeclaration_relocate relocation inBraces (first :: rest)

theorem startsTypeReference_relocate (inBraces : Bool) (tokens : List Token) :
    startsTypeReference inBraces (tokens.map (Token.relocate relocation)) =
      startsTypeReference inBraces tokens := by
  have sameHeader := startsDeclaration_relocate relocation inBraces tokens
  match tokens with
  | [] => rfl
  | [name] =>
      simp only [List.map_cons, List.map_nil] at sameHeader
      simp only [List.map_cons, List.map_nil, startsTypeReference, sameHeader]
  | name :: next :: rest =>
      simp only [List.map_cons] at sameHeader
      simp only [List.map_cons, startsTypeReference, sameHeader]

theorem skipToDeclaration_relocate (tokens : List Token) :
    skipToDeclaration (tokens.map (Token.relocate relocation)) =
      (skipToDeclaration tokens).map (Token.relocate relocation) := by
  induction tokens with
  | nil => rfl
  | cons first rest ih =>
      rw [List.map_cons, skipToDeclaration, skipToDeclaration, startsDeclaration_relocate_cons]
      split
      · rfl
      · exact ih

namespace Parsed

variable {α : Type}

/-- Relocates the error and the tokens that were not read, and changes the value. -/
def relocate (move : α → α) : Parsed α → Parsed α
  | success value rest => success (move value) (rest.map (Token.relocate relocation))
  | failure error rest =>
      failure (error.relocate relocation) (rest.map (Token.relocate relocation))

end Parsed

namespace Production

variable {α β : Type}

/-- The second production does on relocated tokens what the first does on the tokens. -/
def Follows (move : α → α) (second first : Production α) : Prop :=
  ∀ tokens, second (tokens.map (Token.relocate relocation)) = (first tokens).relocate relocation move

variable {relocation}

theorem Follows.cons {move : α → α} {first second : Production α}
    (follows : Follows relocation move second first) (token : Token) (rest : List Token) :
    second (token.relocate relocation :: rest.map (Token.relocate relocation)) =
      (first (token :: rest)).relocate relocation move :=
  follows (token :: rest)

theorem follows_pure (move : α → α) (value : α) :
    Follows relocation move (pure (move value)) (pure value) :=
  fun _ => rfl

theorem follows_bind {moveFirst : α → α} {move : β → β} {first first' : Production α}
    {next next' : α → Production β} (firstFollows : Follows relocation moveFirst first' first)
    (nextFollows : ∀ value, Follows relocation move (next' (moveFirst value)) (next value)) :
    Follows relocation move (first' >>= next') (first >>= next) := by
  intro tokens
  simp only [bind, Production.bind, firstFollows tokens]
  cases first tokens with
  | success value rest => exact nextFollows value rest
  | failure error rest => rfl

theorem follows_token (kind : TokenKind) (expected : Expected) :
    Follows relocation (Token.relocate relocation) (token kind expected) (token kind expected) := by
  intro tokens
  cases tokens with
  | nil => rfl
  | cons first rest =>
      simp only [List.map_cons, token]
      by_cases isKind : first.kind = kind
      · rw [if_pos isKind, if_pos isKind]
        rfl
      · rw [if_neg isKind, if_neg isKind]
        rfl

theorem follows_nameToken (expected : Expected) :
    Follows relocation (Prod.map (Token.relocate relocation) id) (nameToken expected)
      (nameToken expected) := by
  intro tokens
  cases tokens with
  | nil => rfl
  | cons first rest =>
      simp only [List.map_cons, nameToken]
      split <;> rfl

theorem follows_name (expected : Expected) :
    Follows relocation id (Production.name expected) (Production.name expected) := by
  intro tokens
  rw [Production.name, Production.name, follows_nameToken expected tokens]
  cases nameToken expected tokens <;> rfl

theorem follows_optional (kind : TokenKind) :
    Follows relocation (Option.map (Token.relocate relocation)) (optional kind) (optional kind) := by
  intro tokens
  cases tokens with
  | nil => rfl
  | cons first rest =>
      simp only [List.map_cons, optional]
      by_cases isKind : first.kind = kind
      · rw [if_pos isKind, if_pos isKind]
        rfl
      · rw [if_neg isKind, if_neg isKind]
        rfl

theorem follows_description : Follows relocation id description description := by
  intro tokens
  cases tokens with
  | nil => rfl
  | cons first rest =>
      simp only [List.map_cons, description]
      split <;> rfl

theorem follows_arguments (directive : Name) (bound : Arguments) :
    Follows relocation id (arguments directive bound) (arguments directive bound) := by
  intro tokens
  fun_induction arguments directive bound tokens with
  | case1 => rfl
  | case2 bound key rest closes =>
      rw [List.map_cons, arguments.eq_def]
      exact if_pos closes
  | case3 bound key rest other notName =>
      rw [List.map_cons, arguments.eq_def]
      dsimp only
      rw [if_neg other, if_pos notName]
      rfl
  | case4 bound key other isName =>
      rw [List.map_cons, arguments.eq_def]
      dsimp only
      rw [if_neg other, if_neg isName]
      rfl
  | case5 bound key other isName separator rest noSeparator =>
      simp only [List.map_cons]
      rw [arguments.eq_def]
      dsimp only
      rw [if_neg other, if_neg isName, if_pos noSeparator, ← relocation.through]
      rfl
  | case6 bound key other isName separator separates =>
      simp only [List.map_cons]
      rw [arguments.eq_def]
      dsimp only
      rw [if_neg other, if_neg isName, if_neg separates]
      rfl
  | case7 bound key other isName separator separates value rest text valued ih =>
      simp only [List.map_cons]
      rw [arguments.eq_def]
      dsimp only
      rw [if_neg other, if_neg isName, if_neg separates, valued]
      exact ih
  | case8 bound key other isName separator separates value rest noValue =>
      simp only [List.map_cons]
      rw [arguments.eq_def]
      dsimp only
      rw [if_neg other, if_neg isName, if_neg separates, noValue, ← relocation.through]
      rfl

theorem follows_optionalArguments (directive : Name) :
    Follows relocation id (optionalArguments directive) (optionalArguments directive) := by
  refine follows_bind (follows_optional _) fun opening => ?_
  cases opening with
  | none => exact follows_pure id _
  | some _ => exact follows_arguments directive _

theorem follows_directive : Follows relocation id directive directive := by
  refine follows_bind (follows_token _ _) fun _ => ?_
  refine follows_bind (follows_name _) fun name => ?_
  refine follows_bind (follows_optionalArguments name) fun _ => ?_
  exact follows_pure id _

theorem follows_directives : Follows relocation id directives directives := by
  intro tokens
  fun_induction directives tokens with
  | case1 => rw [List.map_nil, directives]; rfl
  | case2 token rest isMark first left parsed ih =>
      rw [List.map_cons, directives_cons, if_pos isMark, follows_directive.cons, parsed]
      dsimp only [Parsed.relocate]
      rw [ih]
      cases directives left <;> rfl
  | case3 token rest isMark error left parsed =>
      rw [List.map_cons, directives_cons, if_pos isMark, follows_directive.cons, parsed]
      rfl
  | case4 token rest other =>
      rw [List.map_cons, directives_cons, if_neg other]
      rfl

theorem follows_typeReference (inBraces : Bool) (field previous : Token) :
    Follows relocation id
      (typeReference inBraces (field.relocate relocation) (previous.relocate relocation))
      (typeReference inBraces field previous) := by
  intro tokens
  cases tokens with
  | nil =>
      simp only [List.map_nil, typeReference, ← relocation.upTo, ← relocation.after]
      rfl
  | cons first rest =>
      have sameStart := startsTypeReference_relocate relocation inBraces (first :: rest)
      rw [List.map_cons] at sameStart
      rw [List.map_cons, typeReference, typeReference, sameStart]
      split
      · exact follows_name _ (first :: rest)
      · rw [← relocation.upTo]
        rfl

theorem follows_fieldType (inBraces : Bool) (field colon : Token) :
    Follows relocation id
      (fieldType inBraces (field.relocate relocation) (colon.relocate relocation))
      (fieldType inBraces field colon) := by
  refine follows_bind (follows_optional _) fun opening => ?_
  cases opening with
  | none =>
      refine follows_bind (follows_typeReference inBraces field colon) fun name => ?_
      refine follows_bind (follows_optional _) fun mark => ?_
      cases mark <;> exact follows_pure id _
  | some bracket =>
      refine follows_bind (follows_typeReference inBraces field bracket) fun name => ?_
      refine follows_bind (follows_optional _) fun inner => ?_
      refine follows_bind (follows_token _ _) fun _ => ?_
      refine follows_bind (follows_optional _) fun outer => ?_
      cases inner <;> cases outer <;> exact follows_pure id _

theorem follows_field (inBraces : Bool) :
    Follows relocation id (field inBraces) (field inBraces) := by
  refine follows_bind follows_description fun description => ?_
  refine follows_bind (follows_nameToken _) fun named => ?_
  refine follows_bind (follows_token _ _) fun colon => ?_
  refine follows_bind (follows_fieldType inBraces named.1 colon) fun type => ?_
  refine follows_bind follows_directives fun directives => ?_
  exact follows_pure id _

theorem follows_fields (inBraces : Bool) :
    Follows relocation id (fields inBraces) (fields inBraces) := by
  intro tokens
  fun_induction fields inBraces tokens with
  | case1 => rw [List.map_nil, fields]; rfl
  | case2 inBraces token rest closes ih =>
      rw [List.map_cons, fields_cons, if_pos closes]
      exact ih
  | case3 inBraces token rest other starts =>
      rw [List.map_cons, fields_cons, if_neg other, startsDeclaration_relocate_cons, if_pos starts]
      rfl
  | case4 inBraces token rest other noHeader first left parsed ih =>
      have step := @follows_field relocation inBraces (token :: rest)
      rw [parsed, List.map_cons] at step
      rw [List.map_cons, fields_cons, if_neg other, startsDeclaration_relocate_cons,
        if_neg noHeader, step]
      dsimp only [Parsed.relocate]
      rw [ih]
      cases fields inBraces left <;> rfl
  | case5 inBraces token rest other noHeader error left parsed =>
      have step := @follows_field relocation inBraces (token :: rest)
      rw [parsed, List.map_cons] at step
      rw [List.map_cons, fields_cons, if_neg other, startsDeclaration_relocate_cons,
        if_neg noHeader, step]
      rfl

theorem follows_values (inBraces : Bool) :
    Follows relocation id (values inBraces) (values inBraces) := by
  intro tokens
  fun_induction values inBraces tokens with
  | case1 => rw [List.map_nil, values]; rfl
  | case2 inBraces token rest closes ih =>
      rw [List.map_cons, values_cons, if_pos closes]
      exact ih
  | case3 inBraces token rest other starts =>
      rw [List.map_cons, values_cons, if_neg other, startsDeclaration_relocate_cons, if_pos starts]
      rfl
  | case4 inBraces token rest other noHeader describes ih =>
      rw [List.map_cons, values_cons, if_neg other, startsDeclaration_relocate_cons,
        if_neg noHeader, if_pos describes]
      exact ih
  | case5 inBraces token rest other noHeader noDescription noName =>
      rw [List.map_cons, values_cons, if_neg other, startsDeclaration_relocate_cons,
        if_neg noHeader, if_neg noDescription, noName]
      rfl
  | case6 inBraces token rest other noHeader noDescription value named dropped left parsed ih =>
      have step := @follows_directives relocation rest
      rw [parsed] at step
      rw [List.map_cons, values_cons, if_neg other, startsDeclaration_relocate_cons, if_neg noHeader,
        if_neg noDescription, named, step]
      dsimp only [Parsed.relocate]
      rw [ih]
      cases values inBraces left <;> rfl
  | case7 inBraces token rest other noHeader noDescription value named error left parsed =>
      have step := @follows_directives relocation rest
      rw [parsed] at step
      rw [List.map_cons, values_cons, if_neg other, startsDeclaration_relocate_cons, if_neg noHeader,
        if_neg noDescription, named, step]
      rfl

theorem follows_declarationKeyword :
    Follows relocation id declarationKeyword declarationKeyword := by
  intro tokens
  cases tokens with
  | nil => rfl
  | cons first rest =>
      simp only [List.map_cons, declarationKeyword]
      by_cases isType : first.kind = .typeKeyword
      · rw [if_pos isType, if_pos isType]
        rfl
      rw [if_neg isType, if_neg isType]
      by_cases isEnum : first.kind = .enumKeyword
      · rw [if_pos isEnum, if_pos isEnum]
        rfl
      rw [if_neg isEnum, if_neg isEnum]
      by_cases unsupported : first.isUnsupportedKeyword = true
      · rw [if_pos unsupported, if_pos unsupported]
        rfl
      · rw [if_neg unsupported, if_neg unsupported]
        rfl

theorem follows_body (kind : TypeKind) (inBraces : Bool) :
    Follows relocation id (body kind inBraces) (body kind inBraces) := by
  intro tokens
  cases kind with
  | object =>
      dsimp only [body]
      rw [follows_fields inBraces tokens]
      cases fields inBraces tokens <;> rfl
  | enumeration =>
      dsimp only [body]
      rw [follows_values inBraces tokens]
      cases values inBraces tokens <;> rfl

theorem follows_declaration : Follows relocation id declaration declaration := by
  refine follows_bind follows_description fun description => ?_
  refine follows_bind follows_declarationKeyword fun kind => ?_
  refine follows_bind (follows_name _) fun name => ?_
  refine follows_bind follows_directives fun directives => ?_
  refine follows_bind (follows_optional _) fun brace => ?_
  have sameFlag : (brace.map (Token.relocate relocation)).isSome = brace.isSome := by
    cases brace <;> rfl
  rw [sameFlag]
  refine follows_bind (follows_body kind brace.isSome) fun body => ?_
  exact follows_pure id _

end Production

namespace Document

def relocateAttempt (attempt : Except SyntaxError (Declaration Field)) :
    Except SyntaxError (Declaration Field) :=
  attempt.mapError (SyntaxError.relocate relocation)

/-- Relocated tokens are read as the same declarations and the relocated errors. -/
theorem attempts_relocate (tokens : List Token) :
    attempts (tokens.map (Token.relocate relocation)) =
      (attempts tokens).map (relocateAttempt relocation) := by
  fun_induction attempts tokens with
  | case1 => rw [List.map_nil, attempts]; rfl
  | case2 token rest declaration left parsed ih =>
      rw [List.map_cons, attempts_cons, Production.follows_declaration.cons, parsed]
      dsimp only [Parsed.relocate]
      rw [ih]
      rfl
  | case3 token rest error left parsed ih =>
      rw [List.map_cons, attempts_cons, Production.follows_declaration.cons, parsed]
      dsimp only [Parsed.relocate]
      rw [skipToDeclaration_relocate, ih]
      rfl

end Document

end SdlWorkbench
