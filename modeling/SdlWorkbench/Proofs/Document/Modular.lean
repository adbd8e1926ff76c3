import SdlWorkbench.Proofs.Document.Closed
import SdlWorkbench.Proofs.Document.Relocation
/-!
Reading is modular.

Where a text ends in a closing brace and the next one begins with a header, the declarations and the
errors of both texts together are those of each text alone.
-/

namespace SdlWorkbench

namespace Document

theorem declaration_append {token : Token} {rest : List Token}
    (closed : ClosedOrEmpty (token :: rest)) {more : List Token} (ends : EndsDeclaration more) :
    ClosedOrEmpty (Production.declaration (token :: rest)).rest ∧
      Production.declaration (token :: (rest ++ more)) =
        (Production.declaration (token :: rest)).extend more := by
  obtain ⟨left, same⟩ :=
    Production.apart_declaration (token :: rest) (closed.resolve_left (List.cons_ne_nil _ _))
  exact ⟨left, same more ends⟩

/-- Attempts go on behind a closing brace as at the start of a text. -/
theorem attempts_append {tokens : List Token} (closed : ClosedOrEmpty tokens) {more : List Token}
    (ends : EndsDeclaration more) :
    attempts (tokens ++ more) = attempts tokens ++ attempts more := by
  fun_induction attempts tokens with
  | case1 => rfl
  | case2 token rest declaration left parsed ih =>
      obtain ⟨leftClosed, same⟩ := declaration_append closed ends
      rw [parsed] at leftClosed same
      rw [List.cons_append, attempts_cons, same]
      exact congrArg _ (ih leftClosed)
  | case3 token rest error left parsed ih =>
      obtain ⟨leftClosed, same⟩ := declaration_append closed ends
      rw [parsed] at leftClosed same
      -- Recovery stops before the second text, whether or not a token of the first one is left.
      obtain ⟨skips, skippedClosed⟩ := skipToDeclaration_append_of_closedOrEmpty leftClosed ends
      rw [List.cons_append, attempts_cons, same]
      exact congrArg _ ((congrArg attempts skips).trans (ih skippedClosed))

/-- The declarations of two readings, or the errors of both. -/
def together {α : Type} :
    Except (List SyntaxError) (List α) → Except (List SyntaxError) (List α) →
      Except (List SyntaxError) (List α)
  | .ok first, .ok second => .ok (first ++ second)
  | .ok _, .error second => .error second
  | .error first, .ok _ => .error first
  | .error first, .error second => .error (first ++ second)

theorem collect_append {α : Type} (first second : List (Except SyntaxError α)) :
    collect (first ++ second) = together (collect first) (collect second) := by
  simp only [collect, List.filterMap_append]
  cases first.filterMap failed? with
  | nil => cases second.filterMap failed? <;> rfl
  | cons error errors =>
      cases second.filterMap failed? with
      | nil => rw [List.append_nil]; rfl
      | cons _ _ => rfl

theorem failed?_mapError {α : Type} (move : SyntaxError → SyntaxError)
    (attempt : Except SyntaxError α) :
    failed? (attempt.mapError move) = (failed? attempt).map move := by
  cases attempt <;> rfl

theorem toOption_mapError {α : Type} (move : SyntaxError → SyntaxError)
    (attempt : Except SyntaxError α) : (attempt.mapError move).toOption = attempt.toOption := by
  cases attempt <;> rfl

theorem collect_mapError {α : Type} (move : SyntaxError → SyntaxError)
    (attempts : List (Except SyntaxError α)) :
    collect (attempts.map (Except.mapError move)) =
      (collect attempts).mapError (List.map move) := by
  have errors : (attempts.map (Except.mapError move)).filterMap failed? =
      (attempts.filterMap failed?).map move := by
    rw [List.filterMap_map, List.map_filterMap]
    exact congrArg (List.filterMap · attempts) (funext (failed?_mapError move))
  have values : (attempts.map (Except.mapError move)).filterMap Except.toOption =
      attempts.filterMap Except.toOption := by
    rw [List.filterMap_map]
    exact congrArg (List.filterMap · attempts) (funext (toOption_mapError move))
  simp only [collect, errors, values]
  cases attempts.filterMap failed? <;> rfl

/-- Every span of an error moves towards the end by the same number of bytes. -/
abbrev shiftErrors (count : Nat) (errors : List SyntaxError) : List SyntaxError :=
  errors.map (SyntaxError.relocate (Relocation.shift count))

theorem ofTokens_relocate (relocation : Relocation) (tokens : List Token) :
    ofTokens (tokens.map (Token.relocate relocation)) =
      (ofTokens tokens).mapError (List.map (SyntaxError.relocate relocation)) :=
  calc ofTokens (tokens.map (Token.relocate relocation))
      = collect ((attempts tokens).map (relocateAttempt relocation)) :=
        congrArg collect (attempts_relocate relocation tokens)
    _ = (ofTokens tokens).mapError (List.map (SyntaxError.relocate relocation)) :=
        collect_mapError _ (attempts tokens)

theorem ofTokens_shift (count : Nat) (tokens : List Token) :
    ofTokens (tokens.map (Token.shift count)) =
      (ofTokens tokens).mapError (shiftErrors count) :=
  ofTokens_relocate (Relocation.shift count) tokens

theorem ofText_append_newline {first second : Text} {firstTokens secondTokens : List Token}
    (firstRead : Token.ofText first = .ok firstTokens)
    (secondRead : Token.ofText second = .ok secondTokens)
    (closes : ∀ token, firstTokens.getLast? = some token → token.kind = .rightBrace)
    (starts : EndsDeclaration secondTokens) :
    ofText (first ++ '\n' :: second) =
      together (ofText first)
        ((ofText second).mapError (shiftErrors (first.utf8Length + 1))) := by
  have shiftedStarts :
      EndsDeclaration (secondTokens.map (Token.shift (first.utf8Length + 1))) := by
    rcases starts with rfl | header
    · exact .inl rfl
    · exact .inr ((startsDeclaration_relocate (Relocation.shift _) false secondTokens).trans header)
  rw [ofText, Token.ofText_append_newline firstRead secondRead]
  dsimp only
  rw [ofTokens, attempts_append (closedOrEmpty_of_getLast? closes) shiftedStarts, collect_append,
    ofText, firstRead, ofText, secondRead]
  exact congrArg _ (ofTokens_shift _ secondTokens)

end Document

namespace Schema

/-- The declarations of the schema that is read, without their ids. -/
def declarationsRead (supply : IdSupply) (text : Text) : Except (List SyntaxError) Document :=
  (ofText supply text).map fun read => read.1.document

theorem declarationsRead_eq (supply : IdSupply) (text : Text) :
    declarationsRead supply text = Document.ofText text := by
  rw [declarationsRead, ofText]
  cases Document.ofText text with
  | error errors => rfl
  | ok document => exact congrArg Except.ok (Document.document_identify document supply)

/-- Two texts are read on two lines as each is read alone, with the spans of the second where it now
stands, if the first has no token or ends in a closing brace and the second has none or begins with a
header. -/
theorem declarationsRead_append_newline {first second : Text}
    {firstTokens secondTokens : List Token} (firstRead : Token.ofText first = .ok firstTokens)
    (secondRead : Token.ofText second = .ok secondTokens)
    (closes : ∀ token, firstTokens.getLast? = some token → token.kind = .rightBrace)
    (starts : secondTokens = [] ∨ startsDeclaration false secondTokens = true)
    (supply firstSupply secondSupply : IdSupply) :
    declarationsRead supply (first ++ '\n' :: second) =
      Document.together (declarationsRead firstSupply first)
        ((declarationsRead secondSupply second).mapError
          (Document.shiftErrors (first.utf8Length + 1))) := by
  rw [declarationsRead_eq, declarationsRead_eq, declarationsRead_eq]
  exact Document.ofText_append_newline firstRead secondRead closes starts

def untypedField : Text :=
  "type A \x7b x \x7d".toList

def dateScalar : Text :=
  "scalar Date".toList

theorem untypedField_dateScalar_errors :
    declarationsRead ⟨0⟩ (untypedField ++ '\n' :: dateScalar) =
      .error [.unexpectedToken .fieldColon ⟨.rightBrace, ['\x7d']⟩ ⟨11, 12⟩,
        .unsupportedDeclaration "scalar".toList ⟨13, 19⟩] :=
  (declarationsRead_append_newline
    (by decide +kernel : Token.ofText untypedField =
      .ok [⟨⟨.typeKeyword, "type".toList⟩, ⟨0, 4⟩⟩, ⟨⟨.identifier, ['A']⟩, ⟨5, 6⟩⟩,
        ⟨⟨.leftBrace, ['\x7b']⟩, ⟨7, 8⟩⟩, ⟨⟨.identifier, ['x']⟩, ⟨9, 10⟩⟩,
        ⟨⟨.rightBrace, ['\x7d']⟩, ⟨11, 12⟩⟩])
    (by decide +kernel : Token.ofText dateScalar =
      .ok [⟨⟨.identifier, "scalar".toList⟩, ⟨0, 6⟩⟩, ⟨⟨.identifier, "Date".toList⟩, ⟨7, 11⟩⟩])
    (fun token atLast => by cases atLast; rfl) (.inr (by decide)) ⟨0⟩ ⟨0⟩ ⟨0⟩).trans
      (by decide +kernel)

end Schema

end SdlWorkbench
