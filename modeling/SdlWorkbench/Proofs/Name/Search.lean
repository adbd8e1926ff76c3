import SdlWorkbench.Proofs.Name.Unused
import Mathlib.Data.Finset.Card
/-!
The search for a free name ends.

The numbered forms of a base are tried one after the other, with a counter of 32 bits and no other
bound on the number of attempts.  A search is described by what it does from a number on, so that it
has a result only if it ends.  Main statement: while fewer names are taken than the counter has values,
the search ends before the counter overflows, at the name that `Name.unused` gives and at no other.
-/

namespace SdlWorkbench

namespace Text

def numbered (base : Text) (number : Nat) : Text :=
  base ++ Nat.toDigits 10 number

/-- The search through the numbered forms of a base, from a number on, ends at a text.  It stops at
the first form that is free, and may go on only while the next number fits the counter. -/
inductive FindsFrom (base : Text) (taken : List Text) : Nat → Text → Prop where
  | here {number : Nat} (free : base.numbered number ∉ taken) :
      FindsFrom base taken number (base.numbered number)
  | further {number : Nat} {found : Text} (isTaken : base.numbered number ∈ taken)
      (fits : number + 1 < UInt32.size) (later : FindsFrom base taken (number + 1) found) :
      FindsFrom base taken number found

/-- The search that tries the base itself and then its numbered forms ends at a text. -/
inductive Finds (base : Text) (taken : List Text) : Text → Prop where
  | itself (free : base ∉ taken) : Finds base taken base
  | numbered {found : Text} (isTaken : base ∈ taken) (later : FindsFrom base taken 1 found) :
      Finds base taken found

variable {base : Text} {taken : List Text} {found other : Text}

theorem FindsFrom.unique {number : Nat} (finds : FindsFrom base taken number found)
    (findsOther : FindsFrom base taken number other) : other = found := by
  induction finds with
  | here free =>
      cases findsOther with
      | here => rfl
      | further isTaken => exact absurd isTaken free
  | further isTaken fits later ih =>
      cases findsOther with
      | here free => exact absurd isTaken free
      | further _ _ laterOther => exact ih laterOther

theorem Finds.unique (finds : base.Finds taken found) (findsOther : base.Finds taken other) :
    other = found := by
  cases finds with
  | itself free =>
      cases findsOther with
      | itself => rfl
      | numbered isTaken => exact absurd isTaken free
  | numbered isTaken later =>
      cases findsOther with
      | itself free => exact absurd isTaken free
      | numbered _ laterOther => exact later.unique laterOther

theorem findsFrom_of_free {n : Nat} (small : n < UInt32.size) (free : base.numbered n ∉ taken) :
    ∀ steps start, start + steps = n →
      (∀ m, start ≤ m → m < n → base.numbered m ∈ taken) →
        FindsFrom base taken start (base.numbered n) := by
  intro steps
  induction steps with
  | zero =>
      rintro start rfl _
      exact .here free
  | succ steps ih =>
      intro start reached below
      refine .further (below start (Nat.le_refl start) (by omega)) (by omega) ?_
      exact ih (start + 1) (by omega) fun m above => below m (by omega)

end Text

namespace Name

variable {base : Name} {taken : List Name}

theorem text_mem_map_iff {name : Name} : name.text ∈ taken.map Name.text ↔ name ∈ taken := by
  constructor
  · intro member
    obtain ⟨other, otherTaken, same⟩ := List.mem_map.mp member
    rwa [← ext_text same]
  · exact List.mem_map_of_mem

/-- The search ends at the first free name, if there are fewer taken names than the counter has
values. -/
theorem IsFirstFree.finds {name : Name} (first : base.IsFirstFree taken name)
    (fewer : taken.toFinset.card < UInt32.size) :
    base.text.Finds (taken.map Name.text) name.text := by
  rcases first with ⟨free, rfl⟩ | ⟨baseTaken, n, positive, rfl, free, below⟩
  · exact .itself (text_mem_map_iff.not.mpr free)
  · have small : n < UInt32.size := Nat.lt_of_le_of_lt (number_le_card baseTaken below) fewer
    refine .numbered (text_mem_map_iff.mpr baseTaken) ?_
    refine Text.findsFrom_of_free small (text_mem_map_iff.not.mpr free) (n - 1) 1 (by omega) ?_
    exact fun m above lower => text_mem_map_iff.mpr (below m above lower)

/-- The search for a free name ends at just one text, an identifier that is not taken: the base, or when
that is taken the base with the least positive number that makes it free. -/
theorem search_ends (base : Name) {taken : List Name}
    (fewer : taken.toFinset.card < UInt32.size) :
    ∃ found, base.text.Finds (taken.map Name.text) found ∧
      (∀ other, base.text.Finds (taken.map Name.text) other → other = found) ∧
      found = (base.unused taken).text ∧ isIdentifier found = true ∧
      found ∉ taken.map Name.text ∧
      (base ∉ taken ∧ found = base.text ∨
        base ∈ taken ∧ ∃ n > 0, found = base.text ++ Nat.toDigits 10 n ∧
          ∀ m > 0, m < n → base.text ++ Nat.toDigits 10 m ∈ taken.map Name.text) := by
  have first := base.unused_isFirstFree taken
  have finds := first.finds fewer
  refine ⟨(base.unused taken).text, finds, fun other => finds.unique, rfl,
    (base.unused taken).isIdentifier_text,
    text_mem_map_iff.not.mpr (base.unused_not_mem taken), ?_⟩
  rcases first with ⟨free, isBase⟩ | ⟨baseTaken, n, positive, isNumbered, -, below⟩
  · exact .inl ⟨free, congrArg Name.text isBase⟩
  · refine .inr ⟨baseTaken, n, positive, congrArg Name.text isNumbered, ?_⟩
    exact fun m above lower => List.mem_map_of_mem (below m above lower)

/-- Names around a gap.  The base ends in a digit itself, and one of the names is there twice. -/
def gappedNames : List Name :=
  [literal "Row1", literal "Row", literal "Row13", literal "Row11", literal "Row1", literal "Row2"]

theorem gappedNames_search_ends :
    gappedNames.toFinset.card < UInt32.size ∧
    ∃ found, (literal "Row1").text.Finds (gappedNames.map Name.text) found ∧
      (∀ other, (literal "Row1").text.Finds (gappedNames.map Name.text) other → other = found) ∧
      found = ((literal "Row1").unused gappedNames).text ∧ isIdentifier found = true ∧
      found ∉ gappedNames.map Name.text ∧
      (literal "Row1" ∉ gappedNames ∧ found = (literal "Row1").text ∨
        literal "Row1" ∈ gappedNames ∧ ∃ n > 0,
          found = (literal "Row1").text ++ Nat.toDigits 10 n ∧ ∀ m > 0, m < n →
            (literal "Row1").text ++ Nat.toDigits 10 m ∈ gappedNames.map Name.text) :=
  have fewer : gappedNames.toFinset.card < UInt32.size :=
    Nat.lt_of_le_of_lt gappedNames.toFinset_card_le (by decide)
  ⟨fewer, search_ends (literal "Row1") fewer⟩

example : (literal "Row1").unused gappedNames = literal "Row12" := by
  decide

end Name

end SdlWorkbench
