import SdlWorkbench.Text.Basic
/-!
Paths as they are spelled: names with slashes between them.

`Path.steps` forgets what does not matter in a spelling, such as repeated slashes, and
`Path.sort` puts paths in the order of their steps and keeps one spelling of each.
-/

namespace SdlWorkbench

inductive PathStep where
  /-- The start of a path that begins with a slash. -/
  | root
  | current
  | parent
  | name (text : Text)
deriving DecidableEq

/-- A number sequence that orders steps: the root, a dot and two dots come before all names, and names
are ordered by their characters. -/
def PathStep.key : PathStep → List Nat
  | root => [0]
  | current => [1]
  | parent => [2]
  | name text => 3 :: text.map Char.toNat

namespace Path

def pieces : Text → List Text
  | [] => [[]]
  | '/' :: rest => [] :: pieces rest
  | c :: rest =>
      match pieces rest with
      | [] => [[c]]
      | piece :: more => (c :: piece) :: more

/-- The step of a piece that is not at the start.  Empty pieces and single dots lead nowhere. -/
def step? (piece : Text) : Option PathStep :=
  if piece = [] ∨ piece = ['.'] then none
  else if piece = ['.', '.'] then some .parent
  else some (.name piece)

def steps (path : Text) : List PathStep :=
  match path, pieces path with
  | '/' :: _, pieces => .root :: pieces.filterMap step?
  | _, ['.'] :: rest => .current :: rest.filterMap step?
  | _, pieces => pieces.filterMap step?

def leadsNowhere : Text → Bool
  | [] => true
  | ['.'] => true
  | '/' :: rest => leadsNowhere rest
  | '.' :: '/' :: rest => leadsNowhere rest
  | _ => false

def isCurrent (path : Text) : Bool :=
  path.head? = some '.' && leadsNowhere path

def precedes (left right : Text) : Bool :=
  !decide ((steps right).map PathStep.key < (steps left).map PathStep.key)

/-- Puts paths in order.  Of neighbours with the same steps only the first is kept. -/
def distinct : List Text → List Text
  | [] => []
  | path :: rest =>
      path :: (distinct rest).dropWhile fun other => steps other = steps path

/-- Paths in order, without repetitions. -/
def sort (paths : List Text) : List Text :=
  distinct (paths.mergeSort precedes)

def join (base rest : Text) : Text :=
  match base.getLast? with
  | none => rest
  | some '/' => base ++ rest
  | some _ => base ++ '/' :: rest

end Path

end SdlWorkbench
