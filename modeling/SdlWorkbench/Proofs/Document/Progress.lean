import SdlWorkbench.Proofs.Document.Members
import SdlWorkbench.Proofs.Document.Places
/-!
Progress of reading.

Whatever a production does, what it leaves is the end of the tokens it was given.  Productions for
parts of a header or a member read no brace when they succeed, so the braces that a declaration has
read tell whether the place behind it is inside braces.  Main statement: from every place in a list of
tokens a declaration takes one token at least when it fails, and two when it is read, up to the end or
a header.  So the reading of a whole list ends, with no more errors and declarations than tokens.
-/

namespace SdlWorkbench

def TokenKind.isBrace : TokenKind → Bool
  | leftBrace | rightBrace => true
  | _ => false

theorem TokenKind.isBrace_of_isName {kind : TokenKind} (isName : kind.isName = true) :
    kind.isBrace = false := by
  cases kind <;> first | rfl | cases isName

theorem Lexeme.isBrace_of_description? {lexeme : Lexeme} {text : Text}
    (describes : lexeme.description? = some text) : lexeme.kind.isBrace = false := by
  rw [description?] at describes
  cases kind : lexeme.kind <;> first | rfl | (rw [kind] at describes; cases describes)

theorem Lexeme.isBrace_of_argumentValue? {lexeme : Lexeme} {text : Text}
    (denotes : lexeme.argumentValue? = some text) : lexeme.kind.isBrace = false := by
  rw [argumentValue?] at denotes
  cases kind : lexeme.kind <;> first | rfl | (rw [kind] at denotes; cases denotes)

/-- Whether the place behind some tokens is inside braces, when `inBraces` says it of the place in front
of them. -/
def insideBraces (inBraces : Bool) : List Token → Bool
  | [] => inBraces
  | token :: rest =>
      insideBraces (if token.kind.isBrace then token.kind = .leftBrace else inBraces) rest

theorem insideBraces_append (inBraces : Bool) (front back : List Token) :
    insideBraces inBraces (front ++ back) = insideBraces (insideBraces inBraces front) back := by
  induction front generalizing inBraces with
  | nil => rfl
  | cons first rest ih => exact ih _

theorem insideBraces_rightBrace {close : Token} (closes : close.kind = .rightBrace)
    (inBraces : Bool) : insideBraces inBraces [close] = false := by
  rw [insideBraces, closes]
  rfl

def WithoutBrace (tokens : List Token) : Prop :=
  ∀ token ∈ tokens, token.kind.isBrace = false

theorem WithoutBrace.append {front back : List Token} (frontPlain : WithoutBrace front)
    (backPlain : WithoutBrace back) : WithoutBrace (front ++ back) :=
  List.forall_mem_append.mpr ⟨frontPlain, backPlain⟩

theorem WithoutBrace.insideBraces {tokens : List Token} (plain : WithoutBrace tokens)
    (inBraces : Bool) : insideBraces inBraces tokens = inBraces := by
  induction tokens with
  | nil => rfl
  | cons first rest ih =>
      obtain ⟨firstPlain, restPlain⟩ := List.forall_mem_cons.mp plain
      rw [SdlWorkbench.insideBraces, firstPlain, if_neg Bool.false_ne_true]
      exact ih restPlain

/-- Reading has come to the end or to a header.  Braces count from `inBraces` on, over all tokens that
were read. -/
def StopsAt (inBraces : Bool) (read rest : List Token) : Prop :=
  rest = [] ∨ startsDeclaration (insideBraces inBraces read) rest = true

theorem StopsAt.behind {inBraces behindFront : Bool} {front read rest : List Token}
    (counted : insideBraces inBraces front = behindFront) (stops : StopsAt behindFront read rest) :
    StopsAt inBraces (front ++ read) rest := by
  rw [StopsAt, insideBraces_append, counted]
  exact stops

theorem skipToDeclaration_stopsAt (tokens : List Token) :
    StopsAt false [] (skipToDeclaration tokens) := by
  fun_induction skipToDeclaration tokens with
  | case1 => exact .inl rfl
  | case2 token rest starts => exact .inr starts
  | case3 token rest _ ih => exact ih

namespace Parsed

variable {α β : Type}

/-- What is left is the end of the given tokens.  Of a success `known` holds for the tokens that were
read and those that are left. -/
inductive Leaves (tokens : List Token) (known : List Token → List Token → Prop) :
    Parsed α → Prop where
  | success {value : α} {rest : List Token} (read : List Token) (parts : read ++ rest = tokens)
      (holds : known read rest) : Leaves tokens known (success value rest)
  | failure {error : SyntaxError} {rest : List Token} (left : rest <:+ tokens) :
      Leaves tokens known (failure error rest)

variable {tokens rest : List Token} {known known' : List Token → List Token → Prop}
  {parsed : Parsed α}

theorem Leaves.parts_of_success {value : α} (leaves : parsed.Leaves tokens known)
    (succeeds : parsed = .success value rest) :
    ∃ read, read ++ rest = tokens ∧ known read rest := by
  subst succeeds
  cases leaves with
  | success read parts holds => exact ⟨read, parts, holds⟩

theorem Leaves.suffix_of_failure {error : SyntaxError} (leaves : parsed.Leaves tokens known)
    (fails : parsed = .failure error rest) : rest <:+ tokens := by
  subst fails
  cases leaves with
  | failure left => exact left

theorem Leaves.mono (leaves : parsed.Leaves tokens known)
    (weaker : ∀ read rest, known read rest → known' read rest) : parsed.Leaves tokens known' := by
  cases leaves with
  | success read parts holds => exact .success read parts (weaker _ _ holds)
  | failure left => exact .failure left

theorem Leaves.map (leaves : parsed.Leaves tokens known) (f : α → β) :
    (parsed.map f).Leaves tokens known := by
  cases leaves with
  | success read parts holds => exact .success read parts holds
  | failure left => exact .failure left

theorem Leaves.behind (front : List Token)
    (leaves : parsed.Leaves rest known) (parts : front ++ rest = tokens)
    (carries : ∀ read left, known read left → known' (front ++ read) left) :
    parsed.Leaves tokens known' := by
  subst parts
  cases leaves with
  | success read parts holds =>
      refine .success (front ++ read) ?_ (carries _ _ holds)
      rw [List.append_assoc, parts]
  | failure left => exact .failure (left.trans (List.suffix_append front rest))

theorem Leaves.bind {first : Production α} {next : α → Production β}
    (leaves : (first tokens).Leaves tokens known)
    (later : ∀ value read rest, read ++ rest = tokens → known read rest →
      (next value rest).Leaves tokens known') : ((first >>= next) tokens).Leaves tokens known' := by
  simp only [Bind.bind, Production.bind]
  cases result : first tokens with
  | success value rest =>
      obtain ⟨read, parts, holds⟩ := leaves.parts_of_success result
      exact later value read rest parts holds
  | failure error rest => exact .failure (leaves.suffix_of_failure result)

end Parsed

namespace Production

variable {α β : Type} {least more : Nat}

/-- A success has read so many tokens at least, and no brace among them. -/
def Plain (least : Nat) (production : Production α) : Prop :=
  ∀ tokens, (production tokens).Leaves tokens fun read _ =>
    least ≤ read.length ∧ WithoutBrace read

theorem plain_pure (value : α) : Plain 0 (pure value : Production α) := by
  intro tokens
  exact .success [] rfl ⟨Nat.le_refl 0, List.forall_mem_nil _⟩

theorem Plain.weaken {production : Production α} (plain : Plain more production)
    (fewer : least ≤ more) : Plain least production :=
  fun tokens => (plain tokens).mono fun _ _ ⟨enough, noBrace⟩ =>
    ⟨Nat.le_trans fewer enough, noBrace⟩

theorem plain_bind (more : Nat) {first : Production α} {next : α → Production β}
    (firstPlain : Plain least first) (nextPlain : ∀ value, Plain more (next value)) :
    Plain (least + more) (first >>= next) := by
  intro tokens
  refine (firstPlain tokens).bind fun value read rest parts ⟨enough, noBrace⟩ => ?_
  refine (nextPlain value rest).behind read parts fun others _ ⟨enoughMore, noMore⟩ => ?_
  rw [List.length_append]
  exact ⟨Nat.add_le_add enough enoughMore, noBrace.append noMore⟩

theorem leaves_one {value : α} {first : Token} {rest : List Token}
    (noBrace : first.kind.isBrace = false) (few : least ≤ 1) :
    (Parsed.success value rest).Leaves (first :: rest) fun read _ =>
      least ≤ read.length ∧ WithoutBrace read :=
  .success [first] rfl ⟨few, List.forall_mem_singleton.mpr noBrace⟩

theorem plain_token {kind : TokenKind} (noBrace : kind.isBrace = false) (expected : Expected) :
    Plain 1 (token kind expected) := by
  intro tokens
  cases tokens with
  | nil => exact .failure (List.suffix_refl _)
  | cons first rest =>
      rw [token]
      split
      · next isKind => exact leaves_one (isKind ▸ noBrace) (Nat.le_refl 1)
      · exact .failure (List.suffix_cons first rest)

theorem plain_nameToken (expected : Expected) : Plain 1 (nameToken expected) := by
  intro tokens
  cases tokens with
  | nil => exact .failure (List.suffix_refl _)
  | cons first rest =>
      rw [nameToken]
      split
      · next named =>
          exact leaves_one (TokenKind.isBrace_of_isName (Lexeme.isName_of_name? named))
            (Nat.le_refl 1)
      · exact .failure (List.suffix_cons first rest)

theorem plain_name (expected : Expected) : Plain 1 (Production.name expected) :=
  fun tokens => (plain_nameToken expected tokens).map Prod.snd

theorem plain_optional {kind : TokenKind} (noBrace : kind.isBrace = false) :
    Plain 0 (optional kind) := by
  intro tokens
  cases tokens with
  | nil => exact plain_pure none []
  | cons first rest =>
      rw [optional]
      split
      · next isKind => exact leaves_one (isKind ▸ noBrace) (Nat.zero_le 1)
      · exact plain_pure none (first :: rest)

theorem plain_description : Plain 0 description := by
  intro tokens
  cases tokens with
  | nil => exact plain_pure none []
  | cons first rest =>
      rw [description]
      split
      · next describes =>
          exact leaves_one (Lexeme.isBrace_of_description? describes) (Nat.zero_le 1)
      · exact plain_pure none (first :: rest)

theorem plain_arguments (directive : Name) (bound : Arguments) :
    Plain 0 (arguments directive bound) := by
  intro tokens
  fun_induction arguments directive bound tokens with
  | case1 => exact .failure (List.suffix_refl _)
  | case2 bound key rest closes => exact leaves_one (by rw [closes]; rfl) (Nat.zero_le 1)
  | case3 bound key rest => exact .failure (List.suffix_cons key rest)
  | case4 => exact .failure List.nil_suffix
  | case5 bound key other isName separator rest =>
      exact .failure (List.suffix_append [key, separator] rest)
  | case6 => exact .failure List.nil_suffix
  | case7 bound key other isName separator separates value rest text valued ih =>
      have keyPlain : key.kind.isBrace = false :=
        TokenKind.isBrace_of_isName (by simpa using isName)
      have separatorPlain : separator.kind.isBrace = false := by
        cases kind : separator.kind <;> first | rfl | simp [kind] at separates
      have bindingPlain : WithoutBrace [key, separator, value] := by
        intro token member
        simp only [List.mem_cons, List.not_mem_nil, or_false] at member
        rcases member with rfl | rfl | rfl
        · exact keyPlain
        · exact separatorPlain
        · exact Lexeme.isBrace_of_argumentValue? valued
      refine ih.behind [key, separator, value] rfl fun read _ known => ?_
      exact ⟨Nat.zero_le _, bindingPlain.append known.2⟩
  | case8 bound key other isName separator separates value rest =>
      exact .failure (List.suffix_append [key, separator, value] rest)

theorem plain_optionalArguments (directive : Name) : Plain 0 (optionalArguments directive) := by
  refine plain_bind 0 (plain_optional rfl) fun parenthesis => ?_
  cases parenthesis with
  | none => exact plain_pure _
  | some _ => exact plain_arguments directive _

theorem plain_directive : Plain 2 directive := by
  refine plain_bind 1 (plain_token rfl _) fun _ => ?_
  refine plain_bind 0 (plain_name _) fun name => ?_
  refine plain_bind 0 (plain_optionalArguments name) fun _ => ?_
  exact plain_pure _

theorem plain_directives : Plain 0 directives := by
  intro tokens
  fun_induction directives tokens with
  | case1 => exact plain_pure [] []
  | case2 token rest _ first left parsed ih =>
      obtain ⟨read, parts, -, readPlain⟩ := (plain_directive _).parts_of_success parsed
      refine (ih.map _).behind read parts fun others _ known => ?_
      exact ⟨Nat.zero_le _, readPlain.append known.2⟩
  | case3 token rest _ error left parsed =>
      exact .failure ((plain_directive _).suffix_of_failure parsed)
  | case4 token rest => exact plain_pure [] (token :: rest)

theorem plain_typeReference (inBraces : Bool) (field previous : Token) :
    Plain 1 (typeReference inBraces field previous) := by
  intro tokens
  cases tokens with
  | nil => exact .failure (List.suffix_refl _)
  | cons first rest =>
      rw [typeReference]
      split
      · exact plain_name .typeName (first :: rest)
      · exact .failure (List.suffix_refl _)

theorem plain_fieldType (inBraces : Bool) (field colon : Token) :
    Plain 1 (fieldType inBraces field colon) := by
  refine plain_bind 1 (plain_optional rfl) fun bracket => ?_
  cases bracket with
  | none =>
      refine plain_bind 0 (plain_typeReference inBraces field colon) fun _ => ?_
      refine plain_bind 0 (plain_optional rfl) fun _ => ?_
      exact plain_pure _
  | some bracket =>
      refine Plain.weaken ?_ (Nat.le_succ 1)
      refine plain_bind 1 (plain_typeReference inBraces field bracket) fun _ => ?_
      refine plain_bind 1 (plain_optional rfl) fun _ => ?_
      refine plain_bind 0 (plain_token rfl _) fun _ => ?_
      refine plain_bind 0 (plain_optional rfl) fun _ => ?_
      exact plain_pure _

theorem plain_field (inBraces : Bool) : Plain 3 (field inBraces) := by
  refine plain_bind 3 plain_description fun _ => ?_
  refine plain_bind 2 (plain_nameToken _) fun _ => ?_
  refine plain_bind 1 (plain_token rfl _) fun colon => ?_
  refine plain_bind 0 (plain_fieldType inBraces _ colon) fun _ => ?_
  refine plain_bind 0 plain_directives fun _ => ?_
  exact plain_pure _

theorem plain_declarationKeyword : Plain 1 declarationKeyword := by
  intro tokens
  cases tokens with
  | nil => exact .failure (List.suffix_refl _)
  | cons first rest =>
      rw [declarationKeyword]
      split
      · next isType => exact leaves_one (by rw [isType]; rfl) (Nat.le_refl 1)
      split
      · next isEnum => exact leaves_one (by rw [isEnum]; rfl) (Nat.le_refl 1)
      split
      all_goals exact .failure (List.suffix_cons first rest)

/-! ### Members and declarations -/

theorem leaves_fields (inBraces : Bool) (tokens : List Token) :
    (fields inBraces tokens).Leaves tokens (StopsAt inBraces) := by
  fun_induction fields inBraces tokens with
  | case1 inBraces => exact .success [] rfl (.inl rfl)
  | case2 inBraces token rest closes ih =>
      -- A closing brace ends nothing; the members behind it are read outside braces.
      have counted := insideBraces_rightBrace closes inBraces
      exact ih.behind [token] rfl fun read left => StopsAt.behind counted
  | case3 inBraces token rest _ starts => exact .success [] rfl (.inr starts)
  | case4 inBraces token rest _ _ first left parsed ih =>
      obtain ⟨read, parts, -, readPlain⟩ := (plain_field inBraces _).parts_of_success parsed
      have counted := readPlain.insideBraces inBraces
      exact (ih.map _).behind read parts fun others left => StopsAt.behind counted
  | case5 inBraces token rest _ _ error left parsed =>
      exact .failure ((plain_field inBraces _).suffix_of_failure parsed)

theorem leaves_values (inBraces : Bool) (tokens : List Token) :
    (values inBraces tokens).Leaves tokens (StopsAt inBraces) := by
  fun_induction values inBraces tokens with
  | case1 inBraces => exact .success [] rfl (.inl rfl)
  | case2 inBraces token rest closes ih =>
      have counted := insideBraces_rightBrace closes inBraces
      exact ih.behind [token] rfl fun read left => StopsAt.behind counted
  | case3 inBraces token rest _ starts => exact .success [] rfl (.inr starts)
  | case4 inBraces token rest _ _ describes ih =>
      have counted : insideBraces inBraces [token] = inBraces := by
        cases kind : token.kind <;> rw [kind] at describes <;>
          first | (rw [insideBraces, kind]; rfl) | cases describes
      exact ih.behind [token] rfl fun read left => StopsAt.behind counted
  | case5 inBraces token rest => exact .failure (List.suffix_cons token rest)
  | case6 inBraces token rest _ _ _ value named dropped left parsed ih =>
      obtain ⟨read, parts, -, readPlain⟩ := (plain_directives rest).parts_of_success parsed
      have valuePlain : WithoutBrace [token] := List.forall_mem_singleton.mpr
        (TokenKind.isBrace_of_isName (Lexeme.isName_of_name? named))
      have counted := (valuePlain.append readPlain).insideBraces inBraces
      have allParts : [token] ++ read ++ left = token :: rest := congrArg (token :: ·) parts
      exact (ih.map _).behind _ allParts fun others left => StopsAt.behind counted
  | case7 inBraces token rest _ _ _ value _ error left parsed =>
      have suffix := (plain_directives rest).suffix_of_failure parsed
      exact .failure (suffix.trans (List.suffix_cons token rest))

theorem leaves_body (kind : TypeKind) (inBraces : Bool) (tokens : List Token) :
    (body kind inBraces tokens).Leaves tokens (StopsAt inBraces) := by
  cases kind with
  | object => exact (leaves_fields inBraces tokens).map Body.object
  | enumeration => exact (leaves_values inBraces tokens).map Body.enumeration

/-- A success has read so many tokens at least, outside braces first, and has come to the end or to a
header. -/
def Stops (least : Nat) (production : Production α) : Prop :=
  ∀ tokens, (production tokens).Leaves tokens fun read rest =>
    least ≤ read.length ∧ StopsAt false read rest

theorem stops_bind (more : Nat) {first : Production α} {next : α → Production β}
    (firstPlain : Plain least first) (nextStops : ∀ value, Stops more (next value)) :
    Stops (least + more) (first >>= next) := by
  intro tokens
  refine (firstPlain tokens).bind fun value read rest parts ⟨enough, noBrace⟩ => ?_
  refine (nextStops value rest).behind read parts fun others left ⟨enoughMore, stops⟩ => ?_
  rw [List.length_append]
  exact ⟨Nat.add_le_add enough enoughMore, stops.behind (noBrace.insideBraces false)⟩

/-- An opening brace tells the members behind it that they are inside braces. -/
theorem stops_braced (next : Bool → Production α)
    (nextLeaves : ∀ inBraces tokens, (next inBraces tokens).Leaves tokens (StopsAt inBraces)) :
    Stops 0 (optional .leftBrace >>= fun brace => next brace.isSome) := by
  intro tokens
  suffices counted : ∃ brace rest, optional .leftBrace tokens = .success brace rest ∧
      brace.toList ++ rest = tokens ∧ insideBraces false brace.toList = brace.isSome by
    obtain ⟨brace, rest, read, parts, counted⟩ := counted
    simp only [bind, Production.bind, read]
    exact (nextLeaves brace.isSome rest).behind brace.toList parts fun others left stops =>
      ⟨Nat.zero_le _, stops.behind counted⟩
  cases tokens with
  | nil => exact ⟨none, [], rfl, rfl, rfl⟩
  | cons first rest =>
      rw [optional]
      split
      · next opens =>
          have counted : insideBraces false [first] = true := by
            rw [insideBraces, opens]
            rfl
          exact ⟨some first, rest, rfl, rfl, counted⟩
      · exact ⟨none, first :: rest, rfl, rfl, rfl⟩

theorem stops_declaration : Stops 2 declaration := by
  refine stops_bind 2 plain_description fun description => ?_
  refine stops_bind 1 plain_declarationKeyword fun kind => ?_
  refine stops_bind 0 (plain_name _) fun name => ?_
  refine stops_bind 0 plain_directives fun directives => ?_
  let members (inBraces : Bool) : Production (Declaration Field) := do
    let body ← body kind inBraces
    return { name, description, directives, body }
  refine stops_braced members fun inBraces tokens => ?_
  refine (leaves_body kind inBraces tokens).bind fun body read rest parts stops => ?_
  exact .success read parts stops

theorem length_of_declaration_success {tokens left : List Token} {value : Declaration Field}
    (parsed : declaration tokens = .success value left) : left.length + 2 ≤ tokens.length := by
  obtain ⟨read, parts, enough, -⟩ := (stops_declaration tokens).parts_of_success parsed
  rw [← parts, List.length_append, Nat.add_comm]
  exact Nat.add_le_add_right enough _

end Production

/-- Reading from a place among the tokens has reached a later one: one token further at least when it
fails, and two when it succeeds.  A success stops at the end or at a header. -/
inductive Parsed.Advances {α : Type} (tokens : List Token) (position : Nat) :
    Parsed α → Prop where
  | success {value : α} (reached : Nat) (forward : position + 2 ≤ reached)
      (inside : reached ≤ tokens.length)
      (stops : StopsAt false ((tokens.drop position).take (reached - position))
        (tokens.drop reached)) :
      Advances tokens position (success value (tokens.drop reached))
  | failure {error : SyntaxError} (reached : Nat) (forward : position + 1 ≤ reached)
      (inside : reached ≤ tokens.length) :
      Advances tokens position (failure error (tokens.drop reached))

theorem declaration_advances {tokens : List Token} {position : Nat}
    (inside : position < tokens.length) :
    (Production.declaration (tokens.drop position)).Advances tokens position := by
  have leaves := Production.stops_declaration (tokens.drop position)
  cases parsed : Production.declaration (tokens.drop position) with
  | success value rest =>
      obtain ⟨read, parts, enough, stops⟩ := leaves.parts_of_success parsed
      have lengths := congrArg List.length parts
      rw [List.length_append, List.length_drop] at lengths
      have restEq : rest = tokens.drop (position + read.length) := by
        rw [← List.drop_drop, ← parts, List.drop_left]
      have readEq : read = (tokens.drop position).take (position + read.length - position) := by
        rw [Nat.add_sub_cancel_left, ← parts, List.take_left]
      rw [readEq, restEq] at stops
      rw [restEq]
      exact .success _ (Nat.add_le_add_left enough position) (by omega) stops
  | failure error rest =>
      have suffix := (leaves.suffix_of_failure parsed).trans (List.drop_suffix position tokens)
      have consumed := Production.consumes_declaration (tokens.drop position)
      rw [parsed, Parsed.rest, List.length_drop] at consumed
      rw [List.suffix_iff_eq_drop.mp suffix]
      exact .failure _ (by omega) (Nat.sub_le _ _)

theorem skipToDeclaration_advances {tokens : List Token} {position : Nat}
    (inside : position ≤ tokens.length) :
    ∃ reached, position ≤ reached ∧ reached ≤ tokens.length ∧
      skipToDeclaration (tokens.drop position) = tokens.drop reached ∧
      StopsAt false [] (tokens.drop reached) := by
  have left := (skipToDeclaration_suffix (tokens.drop position)).trans
    (List.drop_suffix position tokens)
  have shorter := skipToDeclaration_length_le (tokens.drop position)
  rw [List.length_drop] at shorter
  have leftEq := List.suffix_iff_eq_drop.mp left
  exact ⟨_, by omega, Nat.sub_le _ _, leftEq, leftEq ▸ skipToDeclaration_stopsAt _⟩

namespace Document

/-- The reading of a document ends with some outcomes: declarations are read one after the other until
no token is left, and after an error the reading goes on at the next header. -/
inductive Rounds : List Token → List (Except SyntaxError (Declaration Field)) → Prop where
  | ended : Rounds [] []
  | read {token : Token} {rest left : List Token} {declaration : Declaration Field}
      {outcomes : List (Except SyntaxError (Declaration Field))}
      (parsed : Production.declaration (token :: rest) = .success declaration left)
      (later : Rounds left outcomes) : Rounds (token :: rest) (.ok declaration :: outcomes)
  | failed {token : Token} {rest left : List Token} {error : SyntaxError}
      {outcomes : List (Except SyntaxError (Declaration Field))}
      (parsed : Production.declaration (token :: rest) = .failure error left)
      (later : Rounds (skipToDeclaration left) outcomes) :
      Rounds (token :: rest) (.error error :: outcomes)

variable {tokens : List Token} {outcomes others : List (Except SyntaxError (Declaration Field))}

theorem rounds_attempts (tokens : List Token) : Rounds tokens (attempts tokens) := by
  fun_induction attempts tokens with
  | case1 => exact .ended
  | case2 token rest declaration left parsed ih => exact .read parsed ih
  | case3 token rest error left parsed ih => exact .failed parsed ih

theorem Rounds.unique (rounds : Rounds tokens outcomes) (roundsOther : Rounds tokens others) :
    others = outcomes := by
  induction rounds generalizing others with
  | ended =>
      cases roundsOther
      rfl
  | read parsed later ih =>
      cases roundsOther with
      | read parsedOther laterOther =>
          cases parsed.symm.trans parsedOther
          rw [ih laterOther]
      | failed parsedOther => cases parsed.symm.trans parsedOther
  | failed parsed later ih =>
      cases roundsOther with
      | read parsedOther => cases parsed.symm.trans parsedOther
      | failed parsedOther laterOther =>
          cases parsed.symm.trans parsedOther
          rw [ih laterOther]

/-- Each declaration has taken two tokens and each error one. -/
theorem Rounds.bounded (rounds : Rounds tokens outcomes) :
    2 * (outcomes.filterMap Except.toOption).length + (outcomes.filterMap failed?).length ≤
      tokens.length := by
  induction rounds with
  | ended => exact Nat.le_refl 0
  | read parsed later ih =>
      have shorter := Production.length_of_declaration_success parsed
      simp only [List.filterMap_cons, Except.toOption, failed?, List.length_cons] at *
      omega
  | @failed token rest left error outcomes parsed later ih =>
      have consumed := Production.consumes_declaration (token :: rest)
      have skipped := skipToDeclaration_length_le left
      rw [parsed, Parsed.rest] at consumed
      simp only [List.filterMap_cons, Except.toOption, failed?, List.length_cons] at *
      omega

/-- Reading makes progress.  From every place in front of the end a declaration takes one token at least
when it fails and two when it is read, and the search for the next header goes nowhere back.  So the
reading of the whole document ends, and its errors, with each declaration counted twice, are no more
than the tokens. -/
theorem reading_progresses (tokens : List Token) :
    (∀ position, position < tokens.length →
      (Production.declaration (tokens.drop position)).Advances tokens position) ∧
    (∀ position, position ≤ tokens.length → ∃ reached, position ≤ reached ∧
      reached ≤ tokens.length ∧ skipToDeclaration (tokens.drop position) = tokens.drop reached ∧
      StopsAt false [] (tokens.drop reached)) ∧
    ∃ outcomes, Rounds tokens outcomes ∧ (∀ others, Rounds tokens others → others = outcomes) ∧
      ofTokens tokens = collect outcomes ∧
      2 * (outcomes.filterMap Except.toOption).length + (outcomes.filterMap failed?).length ≤
        tokens.length := by
  have rounds := rounds_attempts tokens
  exact ⟨fun _ => declaration_advances, fun _ => skipToDeclaration_advances,
    attempts tokens, rounds, fun _ => rounds.unique, rfl, rounds.bounded⟩

/-- The tokens of an object type that only a closing brace ends, and of a declaration that is not
supported. -/
def strayTokens : List Token :=
  [⟨⟨.typeKeyword, "type".toList⟩, ⟨0, 4⟩⟩, ⟨⟨.identifier, "Lamp".toList⟩, ⟨5, 9⟩⟩,
    ⟨⟨.rightBrace, "\x7d".toList⟩, ⟨10, 11⟩⟩, ⟨⟨.identifier, "scalar".toList⟩, ⟨12, 18⟩⟩,
    ⟨⟨.identifier, "Watt".toList⟩, ⟨19, 23⟩⟩]

theorem strayTokens_progresses :
    (0 < strayTokens.length ∧
      (Production.declaration (strayTokens.drop 0)).Advances strayTokens 0) ∧
    (3 < strayTokens.length ∧
      (Production.declaration (strayTokens.drop 3)).Advances strayTokens 3) ∧
    4 ≤ strayTokens.length ∧ ∃ reached, 4 ≤ reached ∧ reached ≤ strayTokens.length ∧
      skipToDeclaration (strayTokens.drop 4) = strayTokens.drop reached ∧
      StopsAt false [] (strayTokens.drop reached) :=
  ⟨⟨by decide, (reading_progresses strayTokens).1 0 (by decide)⟩,
    ⟨by decide, (reading_progresses strayTokens).1 3 (by decide)⟩,
    by decide, (reading_progresses strayTokens).2.1 4 (by decide)⟩

end Document

end SdlWorkbench
