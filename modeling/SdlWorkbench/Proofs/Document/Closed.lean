import SdlWorkbench.Proofs.Document.Members
/-!
Reading tokens that end in a closing brace.

No production but those for members gets past a closing brace, and no lookahead does.  What is read of
such tokens, the errors and the tokens that are left included, does not depend on what stands behind
them, with one exception: members that are read up to the last brace go on behind it, unless nothing
follows or the header of a declaration does.
-/

namespace SdlWorkbench

/-- Tokens of which the last is a closing brace. -/
inductive Closed : List Token → Prop where
  | close {token : Token} (closes : token.kind = .rightBrace) : Closed [token]
  | cons (token : Token) {rest : List Token} (closed : Closed rest) : Closed (token :: rest)

/-- Tokens that are used up or still end in a closing brace. -/
def ClosedOrEmpty (tokens : List Token) : Prop :=
  tokens = [] ∨ Closed tokens

theorem Closed.tail {first : Token} {rest : List Token} (closed : Closed (first :: rest)) :
    ClosedOrEmpty rest := by
  cases closed with
  | close => exact .inl rfl
  | cons _ later => exact .inr later

theorem Closed.tail_of_ne {first : Token} {rest : List Token} (closed : Closed (first :: rest))
    (other : first.kind ≠ .rightBrace) : Closed rest := by
  cases closed with
  | close closes => exact absurd closes other
  | cons _ later => exact later

theorem Closed.tail_of_isName {first : Token} {rest : List Token} (closed : Closed (first :: rest))
    (isName : first.kind.isName = true) : Closed rest :=
  closed.tail_of_ne (TokenKind.ne_of_isName isName rfl)

theorem closedOrEmpty_of_getLast? {tokens : List Token}
    (last : ∀ token, tokens.getLast? = some token → token.kind = .rightBrace) :
    ClosedOrEmpty tokens := by
  induction tokens with
  | nil => exact .inl rfl
  | cons first rest ih =>
      cases rest with
      | nil => exact .inr (.close (last first rfl))
      | cons second more =>
          have later := ih fun token atLast => last token (by rw [List.getLast?_cons_cons, atLast])
          rcases later with empty | closed
          · cases empty
          · exact .inr (.cons first closed)

theorem afterDescription_append {tokens : List Token} (closed : Closed tokens)
    (more : List Token) : afterDescription (tokens ++ more) = afterDescription tokens ++ more ∧
      Closed (afterDescription tokens) := by
  cases tokens with
  | nil => cases closed
  | cons first rest =>
      rw [List.cons_append, afterDescription, afterDescription]
      by_cases describes : first.kind.isDescription = true
      · rw [if_pos describes, if_pos describes]
        refine ⟨rfl, closed.tail_of_ne ?_⟩
        rintro closes
        rw [closes] at describes
        cases describes
      · rw [if_neg describes, if_neg describes]
        exact ⟨rfl, closed⟩

/-- The header of a declaration does not reach past a closing brace. -/
theorem startsDeclaration_append (inBraces : Bool) {tokens : List Token} (closed : Closed tokens)
    (more : List Token) :
    startsDeclaration inBraces (tokens ++ more) = startsDeclaration inBraces tokens := by
  obtain ⟨after, afterClosed⟩ := afterDescription_append closed more
  rw [startsDeclaration, startsDeclaration, after]
  generalize afterDescription tokens = header at afterClosed
  cases afterClosed with
  | @close brace closes =>
      have notKeyword : brace.isDeclarationKeyword = false := by
        simp [Lexeme.isDeclarationKeyword, Lexeme.isUnsupportedKeyword, closes]
      cases more with
      | nil => rfl
      | cons name rest =>
          simp only [List.cons_append, List.nil_append, notKeyword, Bool.false_and]
  | cons keyword nameClosed =>
      cases nameClosed with
      | @close brace closes =>
          have notName : brace.kind.isName = false := by rw [closes]; rfl
          simp only [List.cons_append, notName, Bool.and_false, Bool.false_and]
      | cons name afterName =>
          cases afterName with
          | close _ => rfl
          | cons _ _ => rfl

theorem startsDeclaration_append_cons (inBraces : Bool) {first : Token} {rest : List Token}
    (closed : Closed (first :: rest)) (more : List Token) :
    startsDeclaration inBraces (first :: (rest ++ more)) =
      startsDeclaration inBraces (first :: rest) :=
  startsDeclaration_append inBraces closed more

theorem startsTypeReference_append (inBraces : Bool) {tokens : List Token}
    (closed : Closed tokens) (more : List Token) :
    startsTypeReference inBraces (tokens ++ more) = startsTypeReference inBraces tokens := by
  have sameHeader := startsDeclaration_append inBraces closed more
  cases closed with
  | @close brace closes =>
      have notName : brace.kind.isName = false := by rw [closes]; rfl
      cases more with
      | nil => rfl
      | cons next rest =>
          simp only [List.cons_append, List.nil_append, startsTypeReference, notName,
            Bool.false_and]
  | @cons name rest restClosed =>
      cases rest with
      | nil => cases restClosed
      | cons next rest =>
          simp only [List.cons_append] at sameHeader
          simp only [List.cons_append, startsTypeReference, sameHeader]

theorem skipToDeclaration_of_endsDeclaration {tokens : List Token} (ends : EndsDeclaration tokens) :
    skipToDeclaration tokens = tokens := by
  rcases ends with rfl | starts
  · rfl
  · cases tokens with
    | nil => rfl
    | cons first rest => rw [skipToDeclaration, if_pos starts]

theorem skipToDeclaration_append {tokens : List Token} (closed : Closed tokens)
    {more : List Token} (ends : EndsDeclaration more) :
    skipToDeclaration (tokens ++ more) = skipToDeclaration tokens ++ more ∧
      ClosedOrEmpty (skipToDeclaration tokens) := by
  induction closed with
  | @close brace closes =>
      have noHeader : ∀ rest, startsDeclaration false (brace :: rest) = false := by
        intro rest
        by_contra starts
        exact ne_rightBrace_of_startsDeclaration (eq_true_of_ne_false starts) closes
      rw [List.singleton_append, skipToDeclaration, noHeader, if_neg Bool.false_ne_true,
        skipToDeclaration_of_endsDeclaration ends, skipToDeclaration, noHeader,
        if_neg Bool.false_ne_true]
      exact ⟨rfl, .inl rfl⟩
  | @cons first rest later ih =>
      rw [List.cons_append, skipToDeclaration, skipToDeclaration,
        startsDeclaration_append_cons false (.cons first later)]
      split
      · exact ⟨rfl, .inr (.cons first later)⟩
      · exact ih

theorem skipToDeclaration_append_of_closedOrEmpty {tokens : List Token}
    (left : ClosedOrEmpty tokens) {more : List Token} (ends : EndsDeclaration more) :
    skipToDeclaration (tokens ++ more) = skipToDeclaration tokens ++ more ∧
      ClosedOrEmpty (skipToDeclaration tokens) := by
  rcases left with rfl | closed
  · exact ⟨skipToDeclaration_of_endsDeclaration ends, .inl rfl⟩
  · exact skipToDeclaration_append closed ends

namespace Parsed

variable {α β : Type}

def extend (more : List Token) : Parsed α → Parsed α
  | success value rest => success value (rest ++ more)
  | failure error rest => failure error (rest ++ more)

/-- The closing brace was not read, except by the error itself. -/
inductive Inside : Parsed α → Prop where
  | success (value : α) {rest : List Token} (closed : Closed rest) : Inside (success value rest)
  | failure (error : SyntaxError) {rest : List Token} (left : ClosedOrEmpty rest) :
      Inside (failure error rest)

theorem Inside.map {parsed : Parsed α} (inside : parsed.Inside) (f : α → β) :
    (parsed.map f).Inside := by
  cases inside with
  | success value closed => exact .success (f value) closed
  | failure error left => exact .failure error left

theorem extend_map (f : α → β) (parsed : Parsed α) (more : List Token) :
    (parsed.map f).extend more = (parsed.extend more).map f := by
  cases parsed <;> rfl

end Parsed

namespace Production

variable {α β : Type}

/-- Before a closing brace the production reads the same whatever stands behind the brace, and when it
succeeds it leaves the brace. -/
def StaysInside (production : Production α) : Prop :=
  ∀ tokens, Closed tokens → (production tokens).Inside ∧
    ∀ more, production (tokens ++ more) = (production tokens).extend more

theorem inside_pure (value : α) : StaysInside (pure value) :=
  fun _ closed => ⟨.success value closed, fun _ => rfl⟩

theorem inside_bind {first : Production α} {next : α → Production β}
    (firstInside : StaysInside first) (nextInside : ∀ value, StaysInside (next value)) :
    StaysInside (first >>= next) := by
  intro tokens closed
  obtain ⟨inside, same⟩ := firstInside tokens closed
  simp only [bind, Production.bind, same]
  cases read : first tokens with
  | success value rest =>
      rw [read] at inside
      cases inside with
      | success _ left => exact nextInside value rest left
  | failure error rest =>
      rw [read] at inside
      cases inside with
      | failure _ left => exact ⟨.failure error left, fun _ => rfl⟩

theorem inside_token {kind : TokenKind} (other : kind ≠ .rightBrace) (expected : Expected) :
    StaysInside (token kind expected) := by
  intro tokens closed
  cases tokens with
  | nil => cases closed
  | cons first rest =>
      simp only [List.cons_append, token]
      by_cases isKind : first.kind = kind
      · simp only [if_pos isKind]
        exact ⟨.success first (closed.tail_of_ne (isKind ▸ other)), fun _ => rfl⟩
      · simp only [if_neg isKind]
        exact ⟨.failure _ closed.tail, fun _ => rfl⟩

theorem inside_nameToken (expected : Expected) : StaysInside (nameToken expected) := by
  intro tokens closed
  cases tokens with
  | nil => cases closed
  | cons first rest =>
      simp only [List.cons_append, nameToken]
      cases named : first.name? with
      | none => exact ⟨.failure _ closed.tail, fun _ => rfl⟩
      | some name =>
          have notBrace : first.kind ≠ .rightBrace :=
            TokenKind.ne_of_isName (Lexeme.isName_of_name? named) rfl
          exact ⟨.success _ (closed.tail_of_ne notBrace), fun _ => rfl⟩

theorem inside_name (expected : Expected) : StaysInside (Production.name expected) :=
  inside_bind (inside_nameToken expected) fun named => inside_pure named.2

theorem inside_optional {kind : TokenKind} (other : kind ≠ .rightBrace) :
    StaysInside (optional kind) := by
  intro tokens closed
  cases tokens with
  | nil => cases closed
  | cons first rest =>
      simp only [List.cons_append, optional]
      by_cases isKind : first.kind = kind
      · simp only [if_pos isKind]
        exact ⟨.success _ (closed.tail_of_ne (isKind ▸ other)), fun _ => rfl⟩
      · simp only [if_neg isKind]
        exact ⟨.success _ closed, fun _ => rfl⟩

theorem inside_description : StaysInside description := by
  intro tokens closed
  cases tokens with
  | nil => cases closed
  | cons first rest =>
      simp only [List.cons_append, description]
      cases described : first.description? with
      | none => exact ⟨.success _ closed, fun _ => rfl⟩
      | some text =>
          have notBrace : first.kind ≠ .rightBrace := by
            intro closes
            rw [Lexeme.description?, closes] at described
            cases described
          exact ⟨.success _ (closed.tail_of_ne notBrace), fun _ => rfl⟩

/-! ### Directives -/

theorem ne_rightBrace_of_separates {separator : Token}
    (separates : ¬(separator.kind ≠ .colon && separator.kind ≠ .equals) = true) :
    separator.kind ≠ .rightBrace := by
  rintro closes
  simp [closes] at separates

theorem inside_arguments (directive : Name) (bound : Arguments) :
    StaysInside (arguments directive bound) := by
  intro tokens closed
  fun_induction arguments directive bound tokens with
  | case1 => cases closed
  | case2 bound key rest closes =>
      refine ⟨.success _ (closed.tail_of_ne (by rw [closes]; decide)), fun more => ?_⟩
      rw [List.cons_append, arguments.eq_def]
      exact if_pos closes
  | case3 bound key rest other notName =>
      refine ⟨.failure _ closed.tail, fun more => ?_⟩
      rw [List.cons_append, arguments.eq_def]
      dsimp only
      rw [if_neg other, if_pos notName]
      rfl
  | case4 bound key other isName =>
      rcases closed.tail_of_isName (by simpa using isName)
  | case5 bound key other isName separator rest noSeparator =>
      have afterKey := closed.tail_of_isName (by simpa using isName)
      refine ⟨.failure _ afterKey.tail, fun more => ?_⟩
      simp only [List.cons_append]
      rw [arguments.eq_def]
      dsimp only
      rw [if_neg other, if_neg isName, if_pos noSeparator]
      rfl
  | case6 bound key other isName separator separates =>
      have afterKey := closed.tail_of_isName (by simpa using isName)
      rcases afterKey.tail_of_ne (ne_rightBrace_of_separates separates)
  | case7 bound key other isName separator separates value rest text valued ih =>
      have afterKey := closed.tail_of_isName (by simpa using isName)
      have left : Closed rest := by
        refine (afterKey.tail_of_ne (ne_rightBrace_of_separates separates)).tail_of_ne ?_
        rintro closes
        rw [Lexeme.argumentValue?, closes] at valued
        cases valued
      refine ⟨(ih left).1, fun more => ?_⟩
      simp only [List.cons_append]
      rw [arguments.eq_def]
      dsimp only
      rw [if_neg other, if_neg isName, if_neg separates, valued]
      exact (ih left).2 more
  | case8 bound key other isName separator separates value rest noValue =>
      have afterKey := closed.tail_of_isName (by simpa using isName)
      have left := afterKey.tail_of_ne (ne_rightBrace_of_separates separates)
      refine ⟨.failure _ left.tail, fun more => ?_⟩
      simp only [List.cons_append]
      rw [arguments.eq_def]
      dsimp only
      rw [if_neg other, if_neg isName, if_neg separates, noValue]
      rfl

theorem inside_optionalArguments (directive : Name) :
    StaysInside (optionalArguments directive) := by
  refine inside_bind (inside_optional (by decide)) fun opening => ?_
  cases opening with
  | none => exact inside_pure _
  | some _ => exact inside_arguments directive _

theorem inside_directive : StaysInside directive := by
  refine inside_bind (inside_token (by decide) _) fun _ => ?_
  refine inside_bind (inside_name _) fun name => ?_
  refine inside_bind (inside_optionalArguments name) fun _ => ?_
  exact inside_pure _

theorem inside_directives : StaysInside directives := by
  intro tokens closed
  fun_induction directives tokens with
  | case1 => cases closed
  | case2 token rest isMark first left parsed ih =>
      obtain ⟨inside, same⟩ := inside_directive (token :: rest) closed
      rw [parsed] at inside
      cases inside with
      | success _ leftClosed =>
          obtain ⟨laterInside, laterSame⟩ := ih leftClosed
          refine ⟨laterInside.map _, fun more => ?_⟩
          have step := same more
          rw [parsed, List.cons_append] at step
          rw [List.cons_append, directives_cons, if_pos isMark, step, Parsed.extend_map,
            ← laterSame more]
          rfl
  | case3 token rest isMark error left parsed =>
      obtain ⟨inside, same⟩ := inside_directive (token :: rest) closed
      rw [parsed] at inside
      cases inside with
      | failure _ leftClosed =>
          refine ⟨.failure error leftClosed, fun more => ?_⟩
          have step := same more
          rw [parsed, List.cons_append] at step
          rw [List.cons_append, directives_cons, if_pos isMark, step]
          rfl
  | case4 token rest other =>
      refine ⟨.success _ closed, fun more => ?_⟩
      rw [List.cons_append, directives_cons, if_neg other]
      rfl

theorem inside_typeReference (inBraces : Bool) (field previous : Token) :
    StaysInside (typeReference inBraces field previous) := by
  intro tokens closed
  cases tokens with
  | nil => cases closed
  | cons first rest =>
      have sameStart : ∀ more, startsTypeReference inBraces (first :: (rest ++ more)) =
          startsTypeReference inBraces (first :: rest) := startsTypeReference_append inBraces closed
      simp only [List.cons_append, typeReference, sameStart]
      split
      · exact inside_name _ (first :: rest) closed
      · exact ⟨.failure _ (.inr closed), fun _ => rfl⟩

theorem inside_fieldType (inBraces : Bool) (field colon : Token) :
    StaysInside (fieldType inBraces field colon) := by
  refine inside_bind (inside_optional (by decide)) fun opening => ?_
  cases opening with
  | none =>
      refine inside_bind (inside_typeReference inBraces field colon) fun _ => ?_
      refine inside_bind (inside_optional (by decide)) fun _ => ?_
      exact inside_pure _
  | some bracket =>
      refine inside_bind (inside_typeReference inBraces field bracket) fun _ => ?_
      refine inside_bind (inside_optional (by decide)) fun _ => ?_
      refine inside_bind (inside_token (by decide) _) fun _ => ?_
      refine inside_bind (inside_optional (by decide)) fun _ => ?_
      exact inside_pure _

theorem inside_field (inBraces : Bool) : StaysInside (field inBraces) := by
  refine inside_bind inside_description fun _ => ?_
  refine inside_bind (inside_nameToken _) fun named => ?_
  refine inside_bind (inside_token (by decide) _) fun colon => ?_
  refine inside_bind (inside_fieldType inBraces named.1 colon) fun _ => ?_
  refine inside_bind inside_directives fun _ => ?_
  exact inside_pure _

/-! ### Productions that get past the brace -/

/-- What is read with more tokens behind those that were given.  The production stops where it has
stopped, if that was before the closing brace, and it fails where it has failed.  If it has read
everything, it goes on behind the brace as `further` does. -/
inductive GoesOnFrom (further : α → Production α) (extended : List Token → Parsed α) :
    Parsed α → Prop where
  | stops {value : α} {rest : List Token} (left : Closed rest)
      (same : ∀ more, extended more = .success value (rest ++ more)) :
      GoesOnFrom further extended (.success value rest)
  | passes {value : α} (same : ∀ more, extended more = further value more) :
      GoesOnFrom further extended (.success value [])
  | fails {error : SyntaxError} {rest : List Token} (left : ClosedOrEmpty rest)
      (same : ∀ more, extended more = .failure error (rest ++ more)) :
      GoesOnFrom further extended (.failure error rest)

theorem GoesOnFrom.map {further : α → Production α} {extended : List Token → Parsed α}
    {parsed : Parsed α} (goesOn : GoesOnFrom further extended parsed) (f : α → β)
    {further' : β → Production β}
    (same : ∀ value more, further' (f value) more = (further value more).map f) :
    GoesOnFrom further' (fun more => (extended more).map f) (parsed.map f) := by
  cases goesOn with
  | stops left stopped => exact .stops left fun more => congrArg (Parsed.map f) (stopped more)
  | passes passed => exact .passes fun more => by rw [same, passed]
  | fails left failed => exact .fails left fun more => congrArg (Parsed.map f) (failed more)

/-- A production that may read up to a closing brace at the end of the tokens, and then goes on behind
it. -/
def GoesOn (production : Production α) (further : α → Production α) : Prop :=
  ∀ tokens, Closed tokens →
    GoesOnFrom further (fun more => production (tokens ++ more)) (production tokens)

theorem goesOn_bind {first : Production α} {next : α → Production β} {further : β → Production β}
    (firstInside : StaysInside first) (nextGoesOn : ∀ value, GoesOn (next value) further) :
    GoesOn (first >>= next) further := by
  intro tokens closed
  obtain ⟨inside, same⟩ := firstInside tokens closed
  simp only [bind, Production.bind, same]
  cases read : first tokens with
  | success value rest =>
      rw [read] at inside
      cases inside with
      | success _ left => exact nextGoesOn value rest left
  | failure error rest =>
      rw [read] at inside
      cases inside with
      | failure _ left => exact .fails left fun _ => rfl

theorem goesOn_map {production : Production α} {further : α → Production α}
    {further' : β → Production β} (goesOn : GoesOn production further) (f : α → β)
    (same : ∀ value more, further' (f value) more = (further value more).map f) :
    GoesOn (fun tokens => (production tokens).map f) further' :=
  fun tokens closed => (goesOn tokens closed).map f same

def behind (production : Production (List α)) (items : List α) : Production (List α) :=
  fun tokens => (production tokens).map (items ++ ·)

theorem behind_nil (production : Production (List α)) (tokens : List Token) :
    behind production [] tokens = production tokens := by
  rw [behind]
  cases production tokens <;> rfl

theorem behind_cons (production : Production (List α)) (first : α) (items : List α)
    (tokens : List Token) :
    behind production (first :: items) tokens = (behind production items tokens).map (first :: ·) := by
  rw [behind, behind]
  cases production tokens <;> rfl

theorem goesOn_fields (inBraces : Bool) : GoesOn (fields inBraces) (behind (fields false)) := by
  intro tokens closed
  fun_induction fields inBraces tokens with
  | case1 => cases closed
  | case2 inBraces token rest closes ih =>
      simp only [List.cons_append, fields_rightBrace closes]
      rcases closed.tail with rfl | restClosed
      · rw [fields]
        exact .passes fun more => (behind_nil (fields false) more).symm
      · exact ih restClosed
  | case3 inBraces token rest other starts =>
      refine .stops closed fun more => ?_
      rw [List.cons_append, fields_cons, if_neg other, startsDeclaration_append_cons _ closed,
        if_pos starts]
  | case4 inBraces token rest other noHeader first left parsed ih =>
      obtain ⟨inside, same⟩ := inside_field inBraces (token :: rest) closed
      rw [parsed] at inside
      cases inside with
      | success _ leftClosed =>
          have step : ∀ more, fields inBraces (token :: rest ++ more) =
              (fields inBraces (left ++ more)).map (first :: ·) := by
            intro more
            have fieldStep := same more
            rw [parsed, List.cons_append] at fieldStep
            rw [List.cons_append, fields_cons, if_neg other, startsDeclaration_append_cons _ closed,
              if_neg noHeader, fieldStep]
            rfl
          simp only [step]
          exact (ih leftClosed).map (first :: ·) fun items more => behind_cons _ first items more
  | case5 inBraces token rest other noHeader error left parsed =>
      obtain ⟨inside, same⟩ := inside_field inBraces (token :: rest) closed
      rw [parsed] at inside
      cases inside with
      | failure _ leftClosed =>
          refine .fails leftClosed fun more => ?_
          have fieldStep := same more
          rw [parsed, List.cons_append] at fieldStep
          rw [List.cons_append, fields_cons, if_neg other, startsDeclaration_append_cons _ closed,
            if_neg noHeader, fieldStep]
          rfl

theorem goesOn_values (inBraces : Bool) : GoesOn (values inBraces) (behind (values false)) := by
  intro tokens closed
  fun_induction values inBraces tokens with
  | case1 => cases closed
  | case2 inBraces token rest closes ih =>
      simp only [List.cons_append, values_rightBrace closes]
      rcases closed.tail with rfl | restClosed
      · rw [values]
        exact .passes fun more => (behind_nil (values false) more).symm
      · exact ih restClosed
  | case3 inBraces token rest other starts =>
      refine .stops closed fun more => ?_
      rw [List.cons_append, values_cons, if_neg other, startsDeclaration_append_cons _ closed,
        if_pos starts]
  | case4 inBraces token rest other noHeader describes ih =>
      have step : ∀ more, values inBraces (token :: rest ++ more) = values inBraces (rest ++ more) := by
        intro more
        rw [List.cons_append, values_cons, if_neg other, startsDeclaration_append_cons _ closed,
          if_neg noHeader, if_pos describes]
      simp only [step]
      exact ih (closed.tail_of_ne other)
  | case5 inBraces token rest other noHeader noDescription noName =>
      refine .fails closed.tail fun more => ?_
      rw [List.cons_append, values_cons, if_neg other, startsDeclaration_append_cons _ closed,
        if_neg noHeader, if_neg noDescription, noName]
  | case6 inBraces token rest other noHeader noDescription value named dropped left parsed ih =>
      obtain ⟨inside, same⟩ := inside_directives rest (closed.tail_of_ne other)
      rw [parsed] at inside
      cases inside with
      | success _ leftClosed =>
          have step : ∀ more, values inBraces (token :: rest ++ more) =
              (values inBraces (left ++ more)).map (value :: ·) := by
            intro more
            rw [List.cons_append, values_cons, if_neg other, startsDeclaration_append_cons _ closed,
              if_neg noHeader, if_neg noDescription, named, same more, parsed]
            rfl
          simp only [step]
          exact (ih leftClosed).map (value :: ·) fun items more => behind_cons _ value items more
  | case7 inBraces token rest other noHeader noDescription value named error left parsed =>
      obtain ⟨inside, same⟩ := inside_directives rest (closed.tail_of_ne other)
      rw [parsed] at inside
      cases inside with
      | failure _ leftClosed =>
          refine .fails leftClosed fun more => ?_
          rw [List.cons_append, values_cons, if_neg other, startsDeclaration_append_cons _ closed,
            if_neg noHeader, if_neg noDescription, named, same more, parsed]
          rfl

def furtherBody : Body Field → Production (Body Field)
  | .object items => fun tokens => (behind (fields false) items tokens).map Body.object
  | .enumeration items => fun tokens => (behind (values false) items tokens).map Body.enumeration

theorem goesOn_body (kind : TypeKind) (inBraces : Bool) :
    GoesOn (body kind inBraces) furtherBody := by
  cases kind with
  | object => exact goesOn_map (goesOn_fields inBraces) Body.object fun _ _ => rfl
  | enumeration => exact goesOn_map (goesOn_values inBraces) Body.enumeration fun _ _ => rfl

theorem inside_declarationKeyword : StaysInside declarationKeyword := by
  intro tokens closed
  cases tokens with
  | nil => cases closed
  | cons first rest =>
      simp only [List.cons_append, declarationKeyword]
      by_cases isType : first.kind = .typeKeyword
      · simp only [if_pos isType]
        exact ⟨.success _ (closed.tail_of_ne (by rw [isType]; decide)), fun _ => rfl⟩
      simp only [if_neg isType]
      by_cases isEnum : first.kind = .enumKeyword
      · simp only [if_pos isEnum]
        exact ⟨.success _ (closed.tail_of_ne (by rw [isEnum]; decide)), fun _ => rfl⟩
      simp only [if_neg isEnum]
      split
      · exact ⟨.failure _ closed.tail, fun _ => rfl⟩
      · exact ⟨.failure _ closed.tail, fun _ => rfl⟩

def further (declaration : Declaration Field) : Production (Declaration Field) :=
  fun tokens => (furtherBody declaration.body tokens).map fun body => { declaration with body }

theorem goesOn_declaration : GoesOn declaration further := by
  refine goesOn_bind inside_description fun description => ?_
  refine goesOn_bind inside_declarationKeyword fun kind => ?_
  refine goesOn_bind (inside_name _) fun name => ?_
  refine goesOn_bind inside_directives fun directives => ?_
  refine goesOn_bind (inside_optional (by decide)) fun brace => ?_
  refine goesOn_map (goesOn_body kind brace.isSome) _ fun body more => ?_
  rw [further]

/-- Up to a closing brace the production reads the same whatever stands behind the brace, provided that
a declaration may end there. -/
def StaysApart (production : Production α) : Prop :=
  ∀ tokens, Closed tokens → ClosedOrEmpty (production tokens).rest ∧
    ∀ more, EndsDeclaration more → production (tokens ++ more) = (production tokens).extend more

theorem further_of_endsDeclaration (declaration : Declaration Field) {more : List Token}
    (ends : EndsDeclaration more) : further declaration more = .success declaration more := by
  obtain ⟨name, description, directives, body⟩ := declaration
  cases body with
  | object items =>
      simp only [further, furtherBody, behind, fields_of_endsDeclaration ends, Parsed.map,
        List.append_nil]
  | enumeration items =>
      simp only [further, furtherBody, behind, values_of_endsDeclaration ends, Parsed.map,
        List.append_nil]

theorem apart_declaration : StaysApart declaration := by
  intro tokens closed
  have goesOn := goesOn_declaration tokens closed
  generalize declaration tokens = parsed at goesOn
  cases goesOn with
  | stops left same => exact ⟨.inr left, fun more _ => same more⟩
  | passes same =>
      exact ⟨.inl rfl, fun more ends => (same more).trans (further_of_endsDeclaration _ ends)⟩
  | fails left same => exact ⟨left, fun more _ => same more⟩

end Production

end SdlWorkbench
