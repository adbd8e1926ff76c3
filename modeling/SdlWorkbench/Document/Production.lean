import SdlWorkbench.Document.Error
/-!
Productions: steps that read tokens off the front of a list.

A production that fails says how far it has read, because the search for the next declaration goes on
from there.  Productions are composed with `do`.
-/

namespace SdlWorkbench

/-- The result of reading: a value or an error, and the tokens that were not read. -/
inductive Parsed (α : Type) where
  | success (value : α) (rest : List Token)
  | failure (error : SyntaxError) (rest : List Token)

namespace Parsed

variable {α β : Type}

def rest : Parsed α → List Token
  | success _ rest => rest
  | failure _ rest => rest

def map (f : α → β) : Parsed α → Parsed β
  | success value rest => success (f value) rest
  | failure error rest => failure error rest

theorem rest_map (f : α → β) (parsed : Parsed α) : (parsed.map f).rest = parsed.rest := by
  cases parsed <;> rfl

end Parsed

def Production (α : Type) := List Token → Parsed α

namespace Production

variable {α β : Type}

protected def pure (value : α) : Production α :=
  fun tokens => .success value tokens

protected def bind (first : Production α) (next : α → Production β) : Production β :=
  fun tokens =>
    match first tokens with
    | .success value rest => next value rest
    | .failure error rest => .failure error rest

instance : Monad Production where
  pure := Production.pure
  bind := Production.bind

/-- A production that never leaves more tokens than it was given. -/
def Shrinks (production : Production α) : Prop :=
  ∀ tokens, (production tokens).rest.length ≤ tokens.length

theorem shrinks_pure (value : α) : Shrinks (pure value : Production α) :=
  fun _ => Nat.le_refl _

theorem shrinks_bind {first : Production α} {next : α → Production β} (firstShrinks : Shrinks first)
    (nextShrinks : ∀ value, Shrinks (next value)) : Shrinks (first >>= next) := by
  intro tokens
  have firstLe := firstShrinks tokens
  simp only [bind, Production.bind]
  cases firstEq : first tokens with
  | success value rest =>
      rw [firstEq] at firstLe
      exact Nat.le_trans (nextShrinks value rest) firstLe
  | failure error rest =>
      rw [firstEq] at firstLe
      exact firstLe

/-- A production that reads at least one token when there is one, whether it succeeds or fails. -/
def Consumes (production : Production α) : Prop :=
  ∀ tokens, (production tokens).rest.length ≤ tokens.length - 1

theorem Consumes.shrinks {production : Production α} (consumes : Consumes production) :
    Shrinks production :=
  fun tokens => Nat.le_trans (consumes tokens) (Nat.sub_le _ _)

theorem Consumes.length_lt {production : Production α} (consumes : Consumes production)
    (token : Token) (tokens : List Token) :
    (production (token :: tokens)).rest.length < (token :: tokens).length :=
  Nat.lt_succ_of_le (consumes (token :: tokens))

theorem consumes_bind {first : Production α} {next : α → Production β}
    (firstConsumes : Consumes first) (nextShrinks : ∀ value, Shrinks (next value)) :
    Consumes (first >>= next) := by
  intro tokens
  have firstLe := firstConsumes tokens
  simp only [bind, Production.bind]
  cases firstEq : first tokens with
  | success value rest =>
      rw [firstEq] at firstLe
      exact Nat.le_trans (nextShrinks value rest) firstLe
  | failure error rest =>
      rw [firstEq] at firstLe
      exact firstLe

def token (kind : TokenKind) (expected : Expected) : Production Token
  | [] => .failure (.unexpectedEnd expected) []
  | token :: rest =>
      if token.kind = kind then .success token rest
      else .failure (token.unexpected expected) rest

def nameToken (expected : Expected) : Production (Token × Name)
  | [] => .failure (.unexpectedEnd expected) []
  | token :: rest =>
      match token.name? with
      | some name => .success (token, name) rest
      | none => .failure (token.unexpected expected) rest

def name (expected : Expected) : Production Name :=
  fun tokens => (nameToken expected tokens).map Prod.snd

/-- Reads a token of the given kind if it comes next, and gives it. -/
def optional (kind : TokenKind) : Production (Option Token)
  | [] => .success none []
  | token :: rest =>
      if token.kind = kind then .success (some token) rest else .success none (token :: rest)

theorem consumes_token (kind : TokenKind) (expected : Expected) :
    Consumes (token kind expected) := by
  intro tokens
  cases tokens with
  | nil => simp [token, Parsed.rest]
  | cons first rest =>
      simp only [token]
      split <;> simp [Parsed.rest]

theorem consumes_nameToken (expected : Expected) : Consumes (nameToken expected) := by
  intro tokens
  cases tokens with
  | nil => simp [nameToken, Parsed.rest]
  | cons first rest =>
      simp only [nameToken]
      split <;> simp [Parsed.rest]

theorem consumes_name (expected : Expected) : Consumes (name expected) := by
  intro tokens
  simp only [name, Parsed.rest_map]
  exact consumes_nameToken expected tokens

theorem shrinks_optional (kind : TokenKind) : Shrinks (optional kind) := by
  intro tokens
  cases tokens with
  | nil => simp [optional, Parsed.rest]
  | cons first rest =>
      simp only [optional]
      split <;> simp [Parsed.rest]

end Production

end SdlWorkbench
