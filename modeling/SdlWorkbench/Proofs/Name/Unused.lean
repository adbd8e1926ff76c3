import SdlWorkbench.Name
import Mathlib.Data.Finset.Card
/-!
The first free name of a family is free.

The base and its numbered forms are all different, so a list of taken names cannot hold the base and as
many numbered forms as the list is long.
-/

namespace SdlWorkbench

namespace Name

theorem withSuffix_injective (base : Name) : Function.Injective base.withSuffix := by
  intro left right same
  have digits : Nat.toDigits 10 left = Nat.toDigits 10 right :=
    List.append_cancel_left (congrArg Name.text same)
  have numbers := congrArg (Nat.ofDigitChars 10 · 0) digits
  simpa only [Nat.ofDigitChars_toDigits (by omega : 1 < 10) (by omega : 10 ≤ 10)] using numbers

theorem withSuffix_ne (base : Name) (n : Nat) : base.withSuffix n ≠ base := by
  intro same
  have textEq : base.text ++ Nat.toDigits 10 n = base.text ++ [] :=
    (congrArg Name.text same).trans (List.append_nil base.text).symm
  exact Nat.toDigits_ne_nil (List.append_cancel_left textEq)

/-- When the base is taken, so many of its numbered forms can be taken as there are other names. -/
theorem number_le_card {base : Name} {taken : List Name} {n : Nat} (baseTaken : base ∈ taken)
    (below : ∀ m > 0, m < n → base.withSuffix m ∈ taken) : n ≤ taken.toFinset.card := by
  cases n with
  | zero => exact Nat.zero_le _
  | succ n =>
      -- The base and its first `n` numbered forms are `n + 1` different names.
      let family := base :: (List.range n).map fun m => base.withSuffix (m + 1)
      have different : family.Nodup := by
        refine List.nodup_cons.mpr ⟨?_, List.Nodup.map ?_ List.nodup_range⟩
        · intro member
          obtain ⟨m, -, same⟩ := List.mem_map.mp member
          exact base.withSuffix_ne (m + 1) same
        · intro left right same
          exact Nat.succ.inj (base.withSuffix_injective same)
      have within : family.toFinset ⊆ taken.toFinset := by
        intro name member
        rw [List.mem_toFinset] at member ⊢
        rcases List.mem_cons.mp member with rfl | numbered
        · exact baseTaken
        · obtain ⟨m, inRange, rfl⟩ := List.mem_map.mp numbered
          exact below (m + 1) m.succ_pos (Nat.succ_lt_succ (List.mem_range.mp inRange))
      calc n + 1 = family.length := by simp [family]
        _ = family.toFinset.card := (List.toFinset_card_of_nodup different).symm
        _ ≤ taken.toFinset.card := Finset.card_le_card within

theorem exists_withSuffix_not_mem {base : Name} {taken : List Name} (baseTaken : base ∈ taken) :
    ∃ n < taken.length, base.withSuffix (n + 1) ∉ taken := by
  by_contra noneFree
  have allTaken : ∀ m > 0, m < taken.length + 1 → base.withSuffix m ∈ taken := by
    intro m positive inRange
    by_contra free
    exact noneFree ⟨m - 1, by omega, by rwa [Nat.sub_add_cancel positive]⟩
  have tooMany := number_le_card baseTaken allTaken
  have atMost := taken.toFinset_card_le
  omega

/-- A name is the base if that is free, and otherwise the base with the least positive number that makes
it free. -/
def IsFirstFree (base : Name) (taken : List Name) (name : Name) : Prop :=
  base ∉ taken ∧ name = base ∨
    base ∈ taken ∧ ∃ n > 0, name = base.withSuffix n ∧ base.withSuffix n ∉ taken ∧
      ∀ m > 0, m < n → base.withSuffix m ∈ taken

theorem unused_isFirstFree (base : Name) (taken : List Name) :
    base.IsFirstFree taken (base.unused taken) := by
  rw [unused]
  split
  · next baseTaken =>
      rw [List.find?_map]
      cases searched : (List.range taken.length).find?
          ((fun candidate => decide (candidate ∉ taken)) ∘ fun n => base.withSuffix (n + 1)) with
      | none =>
          obtain ⟨n, inRange, free⟩ := exists_withSuffix_not_mem baseTaken
          have isTaken := List.find?_eq_none.mp searched n (List.mem_range.mpr inRange)
          exact absurd (decide_eq_true free) isTaken
      | some n =>
          obtain ⟨free, -, lower⟩ := List.find?_range_eq_some.mp searched
          refine .inr ⟨baseTaken, n + 1, n.succ_pos, rfl, of_decide_eq_true free, ?_⟩
          intro m positive below
          have notFree := lower (m - 1) (by omega)
          rw [Function.comp_apply, Nat.sub_add_cancel positive] at notFree
          simpa using notFree
  · next free => exact .inl ⟨free, rfl⟩

theorem unused_not_mem (base : Name) (taken : List Name) : base.unused taken ∉ taken := by
  rcases base.unused_isFirstFree taken with ⟨free, isBase⟩ | ⟨-, n, -, isNumbered, free, -⟩
  · rwa [isBase]
  · rwa [isNumbered]

end Name

end SdlWorkbench
