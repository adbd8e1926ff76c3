import SdlWorkbench.Proofs.Document.Modular
/-!
Members behind a closing brace.

A closing brace ends nothing.  Tokens that end in one and are read in full may have anything behind
them: it is read as further members of their last declaration, up to the next header.
-/

namespace SdlWorkbench

namespace Production

theorem follows_further (relocation : Relocation) (declaration : Declaration Field) :
    Follows relocation id (further declaration) (further declaration) := by
  intro tokens
  dsimp only [further, furtherBody]
  cases declaration.body with
  | object items =>
      dsimp only [furtherBody, behind]
      rw [follows_fields false tokens]
      cases fields false tokens <;> rfl
  | enumeration items =>
      dsimp only [furtherBody, behind]
      rw [follows_values false tokens]
      cases values false tokens <;> rfl

end Production

namespace Document

def attemptsBy (first : Production (Declaration Field)) (tokens : List Token) :
    List (Except SyntaxError (Declaration Field)) :=
  match first tokens with
  | .success declaration left => .ok declaration :: attempts left
  | .failure error left => .error error :: attempts (skipToDeclaration left)

theorem attemptsBy_relocate {relocation : Relocation} {first : Production (Declaration Field)}
    (follows : Production.Follows relocation id first first) (tokens : List Token) :
    attemptsBy first (tokens.map (Token.relocate relocation)) =
      (attemptsBy first tokens).map (relocateAttempt relocation) := by
  rw [attemptsBy, attemptsBy, follows tokens]
  cases first tokens with
  | success declaration left =>
      dsimp only [Parsed.relocate]
      rw [attempts_relocate]
      rfl
  | failure error left =>
      dsimp only [Parsed.relocate]
      rw [skipToDeclaration_relocate, attempts_relocate]
      rfl

/-- Behind tokens that end in a closing brace and are read without an error, the last attempt goes on. -/
theorem attempts_goOn {tokens : List Token} (closed : Closed tokens) :
    ∀ document : Document, attempts tokens = document.map .ok →
      ∃ before last, document = before ++ [last] ∧ ∀ more,
        attempts (tokens ++ more) = before.map .ok ++ attemptsBy (Production.further last) more := by
  fun_induction attempts tokens with
  | case1 => cases closed
  | case2 token rest declaration left parsed ih =>
      intro document accepted
      obtain ⟨first, others, rfl, same, later⟩ := List.map_eq_cons_iff.mp accepted.symm
      obtain rfl := Except.ok.inj same
      have goesOn := Production.goesOn_declaration (token :: rest) closed
      rw [parsed] at goesOn
      cases goesOn with
      | stops leftClosed stopped =>
          obtain ⟨before, last, rfl, behind⟩ := ih leftClosed others later.symm
          refine ⟨first :: before, last, rfl, fun more => ?_⟩
          have step := stopped more
          rw [List.cons_append] at step
          rw [List.cons_append, attempts_cons, step]
          exact congrArg _ (behind more)
      | passes passed =>
          rw [attempts, List.map_eq_nil_iff] at later
          subst later
          refine ⟨[], first, rfl, fun more => ?_⟩
          have step := passed more
          rw [List.cons_append] at step
          rw [List.cons_append, attempts_cons, step]
          rfl
  | case3 token rest error left parsed ih =>
      intro document accepted
      cases document with
      | nil => cases accepted
      | cons first others => cases accepted

theorem collect_eq_ok {α : Type} {attempts : List (Except SyntaxError α)} {values : List α}
    (accepted : collect attempts = .ok values) : attempts = values.map .ok := by
  have parts : attempts.filterMap failed? = [] ∧ attempts.filterMap Except.toOption = values := by
    rw [collect] at accepted
    split at accepted
    · next none =>
        cases accepted
        exact ⟨none, rfl⟩
    · cases accepted
  obtain ⟨none, rfl⟩ := parts
  clear accepted
  induction attempts with
  | nil => rfl
  | cons attempt rest ih =>
      cases attempt with
      | error error => cases none
      | ok value => exact congrArg _ (ih none)

/-- On the lines behind a text that ends in a closing brace and is read without an error, reading goes on
in its last declaration. -/
theorem ofText_goesOn {first : Text} {front : List Token} {close : Token}
    (firstRead : Token.ofText first = .ok (front ++ [close])) (closes : close.kind = .rightBrace)
    {document : Document} (accepted : ofText first = .ok document) :
    ∃ before last, document = before ++ [last] ∧ ∀ second secondTokens,
      Token.ofText second = .ok secondTokens →
        ofText (first ++ '\n' :: second) = together (.ok before)
          ((collect (attemptsBy (Production.further last) secondTokens)).mapError
            (shiftErrors (first.utf8Length + 1))) := by
  have closed : Closed (front ++ [close]) :=
    (closedOrEmpty_of_getLast? (by simpa using closes)).resolve_left (by simp)
  rw [ofText, firstRead] at accepted
  obtain ⟨before, last, rfl, goesOn⟩ := attempts_goOn closed document (collect_eq_ok accepted)
  refine ⟨before, last, rfl, fun second secondTokens secondRead => ?_⟩
  have moved : attemptsBy (Production.further last)
      (secondTokens.map (Token.shift (first.utf8Length + 1))) =
        (attemptsBy (Production.further last) secondTokens).map
          (relocateAttempt (Relocation.shift (first.utf8Length + 1))) :=
    attemptsBy_relocate (Production.follows_further (Relocation.shift _) last) secondTokens
  rw [ofText, Token.ofText_append_newline firstRead secondRead]
  dsimp only
  rw [ofTokens, goesOn, collect_append, collect_ok, moved]
  exact congrArg _ (collect_mapError _ _)

end Document

end SdlWorkbench
