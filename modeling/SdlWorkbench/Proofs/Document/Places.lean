import SdlWorkbench.Proofs.Document.Productions
import SdlWorkbench.Proofs.Token.Places
/-!
The places of errors.

A production that fails on tokens in order points at bytes behind the tokens that were read before it
and in front of the tokens that it leaves, or it leaves none and points nowhere.  The next attempt
starts among the tokens that are left, so the errors of a text stand in order as its tokens do.
-/

namespace SdlWorkbench

namespace Span.InOrder

variable {boundary : Nat → Prop} {floor : Nat} {first next last : Span} {rest : List Span}

theorem through (inOrder : InOrder boundary floor (first :: last :: rest)) :
    InOrder boundary floor (first.through last :: rest) := by
  cases inOrder with
  | cons begins covers startWhole _ behind =>
      cases behind with
      | cons apart lastCovers _ stopWhole later =>
          have reaches := Nat.lt_of_lt_of_le covers (Nat.le_trans apart (Nat.le_of_lt lastCovers))
          exact .cons begins reaches startWhole stopWhole later

theorem upTo (inOrder : InOrder boundary floor (first :: next :: rest)) :
    InOrder boundary floor (first.upTo next :: next :: rest) := by
  cases inOrder with
  | cons begins covers startWhole _ behind =>
      cases behind with
      | cons apart nextCovers nextStart nextStop later =>
          have stops : max next.start first.stop = next.start := Nat.max_eq_left apart
          rw [Span.upTo, stops]
          exact .cons begins (Nat.lt_of_lt_of_le covers apart) startWhole nextStart
            (.cons (Nat.le_refl _) nextCovers nextStart nextStop later)

theorem upTo_after (inOrder : InOrder boundary floor [first, last]) :
    InOrder boundary floor [first.upTo last.after] := by
  have reached := inOrder.through
  cases inOrder with
  | cons _ _ _ _ behind =>
      cases behind with
      | cons apart lastCovers _ _ _ =>
          have stops : max last.stop first.stop = last.stop :=
            Nat.max_eq_left (Nat.le_trans apart (Nat.le_of_lt lastCovers))
          rw [Span.upTo, Span.after, stops]
          exact reached

end Span.InOrder

/-- The error points at bytes from `floor` on that end before the tokens `rest` begin, or at the end of
the text when there are none. -/
inductive SyntaxError.PlacedBefore (boundary : Nat → Prop) (floor : Nat) :
    SyntaxError → List Token → Prop where
  | atEnd {error : SyntaxError} (pointless : error.span? = none) :
      PlacedBefore boundary floor error []
  | pointing {error : SyntaxError} {span : Span} {rest : List Token}
      (points : error.span? = some span)
      (inOrder : Span.InOrder boundary floor (span :: rest.map Token.span)) :
      PlacedBefore boundary floor error rest

variable {boundary : Nat → Prop} {floor : Nat}

theorem Token.placedBefore_unexpected {token : Token} {rest : List Token}
    (inOrder : Token.InOrder boundary floor (token :: rest)) (expected : Expected) :
    (token.unexpected expected).PlacedBefore boundary floor rest :=
  .pointing rfl inOrder

namespace Parsed

variable {α β : Type}

/-- A failure is placed before the tokens that it leaves; of a success `holds` is known. -/
inductive Placed (boundary : Nat → Prop) (floor : Nat) (holds : α → List Token → Prop) :
    Parsed α → Prop where
  | success {value : α} {rest : List Token} (known : holds value rest) :
      Placed boundary floor holds (success value rest)
  | failure {error : SyntaxError} {rest : List Token}
      (placed : error.PlacedBefore boundary floor rest) :
      Placed boundary floor holds (failure error rest)

theorem Placed.map {holds : α → List Token → Prop} {holds' : β → List Token → Prop}
    {parsed : Parsed α} (placed : parsed.Placed boundary floor holds) {f : α → β}
    (carries : ∀ value rest, holds value rest → holds' (f value) rest) :
    (parsed.map f).Placed boundary floor holds' := by
  cases placed with
  | success known => exact .success (carries _ _ known)
  | failure placed => exact .failure placed

theorem Placed.bind {holds : α → List Token → Prop} {holds' : β → List Token → Prop}
    {first : Production α} {next : α → Production β} {tokens : List Token}
    (placed : (first tokens).Placed boundary floor holds)
    (later : ∀ value rest, holds value rest → (next value rest).Placed boundary floor holds') :
    ((first >>= next) tokens).Placed boundary floor holds' := by
  simp only [Bind.bind, Production.bind]
  cases parsed : first tokens with
  | success value rest =>
      rw [parsed] at placed
      cases placed with
      | success known => exact later value rest known
  | failure error rest =>
      rw [parsed] at placed
      cases placed with
      | failure placed => exact .failure placed

end Parsed

namespace Production

variable {α : Type}

/-- Tokens stay in order when some of them are read, and a failure is placed before the others. -/
def Places (boundary : Nat → Prop) (production : Production α) : Prop :=
  ∀ floor tokens, Token.InOrder boundary floor tokens →
    (production tokens).Placed boundary floor fun _ rest => Token.InOrder boundary floor rest

theorem places_pure (value : α) : Places boundary (pure value : Production α) :=
  fun _ _ inOrder => .success inOrder

theorem placed_token {tokens : List Token} (inOrder : Token.InOrder boundary floor tokens)
    (kind : TokenKind) (expected : Expected) :
    (token kind expected tokens).Placed boundary floor fun first rest => tokens = first :: rest := by
  cases tokens with
  | nil => exact .failure (.atEnd rfl)
  | cons first rest =>
      rw [token]
      split
      · exact .success rfl
      · exact .failure (Token.placedBefore_unexpected inOrder expected)

theorem placed_nameToken {tokens : List Token} (inOrder : Token.InOrder boundary floor tokens)
    (expected : Expected) : (nameToken expected tokens).Placed boundary floor fun named rest =>
      tokens = named.1 :: rest := by
  cases tokens with
  | nil => exact .failure (.atEnd rfl)
  | cons first rest =>
      rw [nameToken]
      split
      · exact .success rfl
      · exact .failure (Token.placedBefore_unexpected inOrder expected)

theorem places_name (expected : Expected) : Places boundary (Production.name expected) := by
  intro floor tokens inOrder
  refine (placed_nameToken inOrder expected).map fun named rest read => ?_
  rw [read] at inOrder
  exact inOrder.tail

theorem exists_optional_eq (kind : TokenKind) (tokens : List Token) :
    ∃ found rest, optional kind tokens = .success found rest ∧ tokens = found.toList ++ rest := by
  cases tokens with
  | nil => exact ⟨none, [], rfl, rfl⟩
  | cons first rest =>
      rw [optional]
      split
      · exact ⟨some first, rest, rfl, rfl⟩
      · exact ⟨none, first :: rest, rfl, rfl⟩

theorem places_optional (kind : TokenKind) : Places boundary (optional kind) := by
  intro floor tokens inOrder
  obtain ⟨found, rest, read, parts⟩ := exists_optional_eq kind tokens
  have leaves : rest.Sublist tokens := parts ▸ List.sublist_append_right _ rest
  rw [read]
  exact .success (inOrder.sublist (leaves.map Token.span))

theorem places_description : Places boundary description := by
  intro floor tokens inOrder
  cases tokens with
  | nil => exact .success inOrder
  | cons first rest =>
      rw [description]
      split
      · exact .success inOrder.tail
      · exact .success inOrder

theorem places_arguments (directive : Name) (bound : Arguments) :
    Places boundary (arguments directive bound) := by
  intro floor tokens inOrder
  fun_induction arguments directive bound tokens with
  | case1 => exact .failure (.atEnd rfl)
  | case2 => exact .success inOrder.tail
  | case3 => exact .failure (.pointing rfl inOrder)
  | case4 => exact .failure (.atEnd rfl)
  | case5 => exact .failure (.pointing rfl inOrder.through)
  | case6 => exact .failure (.atEnd rfl)
  | case7 bound key other isName separator separates value rest text valued ih =>
      exact ih inOrder.tail.tail.tail
  | case8 bound key other isName separator separates value rest noValue =>
      have ends : Token.InOrder boundary floor (key :: value :: rest) :=
        inOrder.sublist (((List.Sublist.refl _).cons _).cons_cons _)
      exact .failure (.pointing rfl ends.through)

theorem places_optionalArguments (directive : Name) :
    Places boundary (optionalArguments directive) := by
  intro floor tokens inOrder
  refine (places_optional .leftParen floor tokens inOrder).bind fun opening rest restInOrder => ?_
  cases opening with
  | none => exact places_pure _ floor rest restInOrder
  | some _ => exact places_arguments directive _ floor rest restInOrder

theorem places_directive : Places boundary directive := by
  intro floor tokens inOrder
  refine (placed_token inOrder _ _).bind fun mark rest read => ?_
  rw [read] at inOrder
  refine (places_name _ floor rest inOrder.tail).bind fun name rest inOrder => ?_
  refine (places_optionalArguments name floor rest inOrder).bind fun arguments rest inOrder => ?_
  exact places_pure _ floor rest inOrder

theorem places_directives : Places boundary directives := by
  intro floor tokens inOrder
  fun_induction directives tokens with
  | case1 => exact .success inOrder
  | case2 token rest isMark first left parsed ih =>
      have placed := places_directive floor _ inOrder
      rw [parsed] at placed
      cases placed with
      | success leftInOrder => exact (ih leftInOrder).map fun _ _ known => known
  | case3 token rest isMark error left parsed =>
      have placed := places_directive floor _ inOrder
      rw [parsed] at placed
      cases placed with
      | failure placed => exact .failure placed
  | case4 => exact .success inOrder

/-- A field without a type is placed from its name on, so its name and the token in front of the type
are in view. -/
theorem placed_typeReference {field previous : Token} {tokens : List Token}
    (inOrder : Token.InOrder boundary floor (field :: previous :: tokens)) (inBraces : Bool) :
    (typeReference inBraces field previous tokens).Placed boundary floor fun _ rest =>
      Token.InOrder boundary floor rest := by
  cases tokens with
  | nil => exact .failure (.pointing rfl inOrder.upTo_after)
  | cons first rest =>
      rw [typeReference]
      split
      · exact places_name _ floor _ inOrder.tail.tail
      · have neighbours : Token.InOrder boundary floor (field :: first :: rest) :=
          inOrder.sublist (((List.Sublist.refl _).cons _).cons_cons _)
        exact .failure (.pointing rfl neighbours.upTo)

theorem placed_fieldType {field colon : Token} {tokens : List Token}
    (inOrder : Token.InOrder boundary floor (field :: colon :: tokens)) (inBraces : Bool) :
    (fieldType inBraces field colon tokens).Placed boundary floor fun _ rest =>
      Token.InOrder boundary floor rest := by
  obtain ⟨opening, rest, read, rfl⟩ := exists_optional_eq .leftBracket tokens
  rw [fieldType, bind_success read]
  cases opening with
  | none =>
      refine (placed_typeReference inOrder inBraces).bind fun name rest inOrder => ?_
      refine (places_optional _ floor rest inOrder).bind fun mark rest inOrder => ?_
      exact places_pure _ floor rest inOrder
  | some bracket =>
      have behind : Token.InOrder boundary floor (field :: bracket :: rest) :=
        inOrder.sublist (((List.Sublist.refl _).cons _).cons_cons _)
      refine (placed_typeReference behind inBraces).bind fun name rest inOrder => ?_
      refine (places_optional _ floor rest inOrder).bind fun inner rest inOrder => ?_
      refine (placed_token inOrder _ _).bind fun closing left closed => ?_
      rw [closed] at inOrder
      refine (places_optional _ floor left inOrder.tail).bind fun outer rest inOrder => ?_
      exact places_pure _ floor rest inOrder

theorem places_field (inBraces : Bool) : Places boundary (field inBraces) := by
  intro floor tokens inOrder
  refine (places_description floor tokens inOrder).bind fun description rest inOrder => ?_
  refine (placed_nameToken inOrder _).bind fun named afterName nameRead => ?_
  rw [nameRead] at inOrder
  refine (placed_token inOrder.tail _ _).bind fun colon afterColon colonRead => ?_
  rw [colonRead] at inOrder
  refine (placed_fieldType inOrder inBraces).bind fun type rest inOrder => ?_
  refine (places_directives floor rest inOrder).bind fun directives rest inOrder => ?_
  exact places_pure _ floor rest inOrder

theorem places_fields (inBraces : Bool) : Places boundary (fields inBraces) := by
  intro floor tokens inOrder
  fun_induction fields inBraces tokens with
  | case1 => exact .success inOrder
  | case2 _ _ _ _ ih => exact ih inOrder.tail
  | case3 => exact .success inOrder
  | case4 inBraces token rest other noHeader first left parsed ih =>
      have placed := places_field inBraces floor _ inOrder
      rw [parsed] at placed
      cases placed with
      | success leftInOrder => exact (ih leftInOrder).map fun _ _ known => known
  | case5 inBraces token rest other noHeader error left parsed =>
      have placed := places_field inBraces floor _ inOrder
      rw [parsed] at placed
      cases placed with
      | failure placed => exact .failure placed

theorem places_values (inBraces : Bool) : Places boundary (values inBraces) := by
  intro floor tokens inOrder
  fun_induction values inBraces tokens with
  | case1 => exact .success inOrder
  | case2 _ _ _ _ ih => exact ih inOrder.tail
  | case3 => exact .success inOrder
  | case4 _ _ _ _ _ _ ih => exact ih inOrder.tail
  | case5 => exact .failure (Token.placedBefore_unexpected inOrder _)
  | case6 inBraces token rest other noHeader noDescription value named dropped left parsed ih =>
      have placed := places_directives floor _ inOrder.tail
      rw [parsed] at placed
      cases placed with
      | success leftInOrder => exact (ih leftInOrder).map fun _ _ known => known
  | case7 inBraces token rest other noHeader noDescription value named error left parsed =>
      have placed := places_directives floor _ inOrder.tail
      rw [parsed] at placed
      cases placed with
      | failure placed => exact .failure placed

theorem places_declarationKeyword : Places boundary declarationKeyword := by
  intro floor tokens inOrder
  cases tokens with
  | nil => exact .failure (.atEnd rfl)
  | cons first rest =>
      rw [declarationKeyword]
      split
      · exact .success inOrder.tail
      split
      · exact .success inOrder.tail
      split
      · exact .failure (.pointing rfl inOrder)
      · exact .failure (Token.placedBefore_unexpected inOrder _)

theorem places_body (kind : TypeKind) (inBraces : Bool) : Places boundary (body kind inBraces) := by
  intro floor tokens inOrder
  cases kind with
  | object => exact (places_fields inBraces floor tokens inOrder).map fun _ _ known => known
  | enumeration => exact (places_values inBraces floor tokens inOrder).map fun _ _ known => known

theorem places_declaration : Places boundary declaration := by
  intro floor tokens inOrder
  refine (places_description floor tokens inOrder).bind fun description rest inOrder => ?_
  refine (places_declarationKeyword floor rest inOrder).bind fun kind rest inOrder => ?_
  refine (places_name _ floor rest inOrder).bind fun name rest inOrder => ?_
  refine (places_directives floor rest inOrder).bind fun directives rest inOrder => ?_
  refine (places_optional _ floor rest inOrder).bind fun brace rest inOrder => ?_
  refine (places_body kind brace.isSome floor rest inOrder).bind fun body rest inOrder => ?_
  exact places_pure _ floor rest inOrder

end Production

theorem skipToDeclaration_suffix (tokens : List Token) : skipToDeclaration tokens <:+ tokens := by
  fun_induction skipToDeclaration tokens with
  | case1 => exact List.suffix_refl _
  | case2 => exact List.suffix_refl _
  | case3 _ _ _ ih => exact ih.trans (List.suffix_cons _ _)

namespace SyntaxError

/-- Errors from `floor` on whose spans stand in order.  Only the last one may point nowhere. -/
structure InOrder (boundary : Nat → Prop) (floor : Nat) (errors : List SyntaxError) : Prop where
  spans : Span.InOrder boundary floor (errors.filterMap span?)
  pointing : ∀ error ∈ errors.dropLast, error.span? ≠ none

theorem inOrder_singleton {error : SyntaxError} (pointless : error.span? = none) :
    InOrder boundary floor [error] where
  spans := by
    rw [List.filterMap_cons, pointless]
    exact .nil floor
  pointing := by
    intro _ impossible
    cases impossible

theorem InOrder.cons {error : SyntaxError} {span : Span} {errors : List SyntaxError}
    (points : error.span? = some span) (begins : floor ≤ span.start)
    (covers : span.start < span.stop) (startWhole : boundary span.start)
    (stopWhole : boundary span.stop) (later : InOrder boundary span.stop errors) :
    InOrder boundary floor (error :: errors) where
  spans := by
    rw [List.filterMap_cons, points]
    exact .cons begins covers startWhole stopWhole later.spans
  pointing := by
    cases errors with
    | nil =>
        intro _ impossible
        cases impossible
    | cons next others =>
        rw [List.dropLast_cons_cons, List.forall_mem_cons]
        refine ⟨?_, later.pointing⟩
        rw [points]
        exact Option.some_ne_none span

end SyntaxError

namespace Document

theorem attempts_inOrder (tokens : List Token) : ∀ floor, Token.InOrder boundary floor tokens →
    SyntaxError.InOrder boundary floor ((attempts tokens).filterMap failed?) := by
  fun_induction attempts tokens with
  | case1 =>
      intro floor _
      exact ⟨.nil floor, by simp⟩
  | case2 token rest declaration left parsed ih =>
      intro floor inOrder
      have placed := Production.places_declaration floor _ inOrder
      rw [parsed] at placed
      cases placed with
      | success leftInOrder => exact ih floor leftInOrder
  | case3 token rest error left parsed ih =>
      intro floor inOrder
      have placed := Production.places_declaration floor _ inOrder
      rw [parsed] at placed
      cases placed with
      | failure placed =>
          cases placed with
          | atEnd pointless =>
              rw [List.filterMap_cons, skipToDeclaration, attempts]
              exact SyntaxError.inOrder_singleton pointless
          | pointing points spanned =>
              cases spanned with
              | cons begins covers startWhole stopWhole leftInOrder =>
                  -- The search for the next header only leaves tokens out.
                  have skipped := (skipToDeclaration_suffix left).sublist.map Token.span
                  exact .cons points begins covers startWhole stopWhole
                    (ih _ (leftInOrder.sublist skipped))

theorem collect_eq_error {α : Type} {attempts : List (Except SyntaxError α)}
    {errors : List SyntaxError} (refused : collect attempts = .error errors) :
    errors ≠ [] ∧ attempts.filterMap failed? = errors := by
  rw [collect] at refused
  split at refused
  · cases refused
  · next failures =>
      cases refused
      exact ⟨failures, rfl⟩

private theorem invalidToken_inOrder {spans : List Span}
    (inOrder : Span.InOrder boundary floor spans) :
    SyntaxError.InOrder boundary floor (spans.map SyntaxError.invalidToken) := by
  induction inOrder with
  | nil floor => exact ⟨.nil floor, by simp⟩
  | cons begins covers startWhole stopWhole _ ih =>
      exact .cons rfl begins covers startWhole stopWhole ih

theorem ofText_error_inOrder {text : Text} {errors : List SyntaxError}
    (refused : ofText text = .error errors) :
    errors ≠ [] ∧ SyntaxError.InOrder text.IsBoundary 0 errors := by
  rw [ofText] at refused
  split at refused
  · next tokens read =>
      obtain ⟨nonempty, rfl⟩ := collect_eq_error refused
      exact ⟨nonempty, attempts_inOrder tokens 0 (Token.ofText_inOrder read)⟩
  · next spans invalid =>
      cases refused
      obtain ⟨nonempty, inOrder⟩ := Token.ofText_error_inOrder invalid
      exact ⟨by simpa using nonempty, invalidToken_inOrder inOrder⟩

end Document

/-- Where the errors of a text point: at something between two boundaries of it, each behind the one
before it.  Only the last error may point nowhere, at the end of the text. -/
structure SyntaxError.WellPlaced (text : Text) (errors : List SyntaxError) : Prop where
  nonempty : errors ≠ []
  inside : ∀ error ∈ errors, ∀ span, error.span? = some span →
    span.start < span.stop ∧ span.stop ≤ text.utf8Length ∧
      text.IsBoundary span.start ∧ text.IsBoundary span.stop
  inOrder : (errors.filterMap span?).Pairwise fun first next =>
    first.start < next.start ∧ first.stop ≤ next.start
  pointing : ∀ error ∈ errors.dropLast, error.span? ≠ none

namespace Schema

theorem errors_of_ofText {text : Text} {supply : IdSupply} {errors : List SyntaxError}
    (refused : ofText supply text = .error errors) : Document.ofText text = .error errors := by
  rw [ofText] at refused
  cases read : Document.ofText text with
  | ok document =>
      rw [read] at refused
      cases refused
  | error found =>
      rw [read] at refused
      cases refused
      rfl

/-- The errors of every text that is refused are well placed. -/
theorem ofText_error_wellPlaced {text : Text} {supply : IdSupply} {errors : List SyntaxError}
    (refused : ofText supply text = .error errors) : SyntaxError.WellPlaced text errors := by
  obtain ⟨nonempty, inOrder⟩ := Document.ofText_error_inOrder (errors_of_ofText refused)
  refine ⟨nonempty, fun error member span points => ?_, inOrder.spans.pairwise, inOrder.pointing⟩
  have among : span ∈ errors.filterMap SyntaxError.span? :=
    List.mem_filterMap.mpr ⟨error, member, points⟩
  obtain ⟨covers, startWhole, stopWhole⟩ := inOrder.spans.forall_mem span among
  exact ⟨covers, stopWhole.le_utf8Length, startWhole, stopWhole⟩

/-- The description in front takes nine bytes, and the text ends inside a directive. -/
def unfinishedText : Text :=
  "\"Zürich\" type A \x7b x: \x7d type B \x7b y z \x7d scalar D type C @d(".toList

def unfinishedErrors : List SyntaxError :=
  [.missingFieldType ['x'] ⟨19, 22⟩,
    .unexpectedToken .fieldColon ⟨.identifier, ['z']⟩ ⟨35, 36⟩,
    .unsupportedDeclaration "scalar".toList ⟨39, 45⟩,
    .unexpectedEnd (.argumentsEnd (Name.literal "d"))]

theorem unfinishedErrors_wellPlaced :
    ofText ⟨0⟩ unfinishedText = .error unfinishedErrors ∧
      SyntaxError.WellPlaced unfinishedText unfinishedErrors :=
  have refused : ofText ⟨0⟩ unfinishedText = .error unfinishedErrors := by decide +kernel
  ⟨refused, ofText_error_wellPlaced refused⟩

end Schema

end SdlWorkbench
