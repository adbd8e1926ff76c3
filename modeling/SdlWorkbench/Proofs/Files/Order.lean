import Mathlib.Data.List.Lex
import Mathlib.Data.List.TakeWhile
import SdlWorkbench.Files.Path
/-!
Paths in order.

Paths are compared by the ranks of their steps, and two paths have the same rank exactly when they have
the same steps.  `Path.sort` therefore lists its paths by strictly rising ranks, each of them in one
spelling.
-/

namespace SdlWorkbench

theorem PathStep.key_injective : Function.Injective PathStep.key := by
  intro left right same
  cases left <;> cases right
  case name.name left right =>
    rw [List.map_injective_iff.mpr (fun _ _ => Char.toNat_inj.mp) (List.cons.inj same).2]
  all_goals first | rfl | simp [key] at same

namespace Path

variable {left right path : Text} {paths : List Text}

def rank (path : Text) : List (List Nat) :=
  (steps path).map PathStep.key

theorem rank_eq_iff : rank left = rank right ↔ steps left = steps right :=
  (List.map_injective_iff.mpr PathStep.key_injective).eq_iff

theorem precedes_iff : precedes left right = true ↔ rank left ≤ rank right := by
  simp only [precedes, rank, Bool.not_eq_true', decide_eq_false_iff_not, not_lt]

theorem pairwise_mergeSort (paths : List Text) :
    (paths.mergeSort precedes).Pairwise fun left right => rank left ≤ rank right := by
  have sorted : (paths.mergeSort precedes).Pairwise fun left right => precedes left right = true := by
    refine List.pairwise_mergeSort ?_ ?_ paths
    · intro first second third
      simp only [precedes_iff]
      exact le_trans
    · intro first second
      simp only [Bool.or_eq_true, precedes_iff]
      exact le_total (rank first) (rank second)
  exact sorted.imp precedes_iff.mp

theorem distinct_sublist (paths : List Text) : (distinct paths).Sublist paths := by
  induction paths with
  | nil => exact List.Sublist.refl []
  | cons path rest inductionHypothesis =>
      exact (((List.dropWhile_sublist _).trans inductionHypothesis)).cons_cons path

theorem exists_mem_distinct (present : path ∈ paths) :
    ∃ other ∈ distinct paths, steps other = steps path := by
  induction paths with
  | nil => cases present
  | cons first rest inductionHypothesis =>
      rcases List.mem_cons.mp present with rfl | later
      · exact ⟨path, List.mem_cons_self, rfl⟩
      · obtain ⟨other, kept, same⟩ := inductionHypothesis later
        -- The spelling kept for the rest may have been dropped in favour of the first path.
        let repeats := fun other : Text => decide (steps other = steps first)
        rw [← List.takeWhile_append_dropWhile (p := repeats) (l := distinct rest),
          List.mem_append] at kept
        rcases kept with dropped | kept
        · have repeated : steps other = steps first :=
            of_decide_eq_true (List.mem_takeWhile_imp (p := repeats) dropped)
          exact ⟨first, List.mem_cons_self, repeated.symm.trans same⟩
        · exact ⟨other, List.mem_cons_of_mem first kept, same⟩

/-- What is left behind a path once its other spellings are dropped is strictly behind it. -/
theorem rank_lt_of_mem_dropWhile (behind : ∀ other ∈ paths, rank path ≤ rank other)
    (rising : paths.Pairwise fun left right => rank left < rank right) {other : Text}
    (left : other ∈ paths.dropWhile fun other => steps other = steps path) :
    rank path < rank other := by
  have kept := List.dropWhile_sublist (l := paths) fun other => decide (steps other = steps path)
  have differs := List.head_dropWhile_not (l := paths)
    fun other => decide (steps other = steps path)
  cases shape : paths.dropWhile fun other => decide (steps other = steps path) with
  | nil => rw [shape] at left; cases left
  | cons next more =>
      rw [shape] at kept left
      have first : rank path < rank next := by
        have nextDiffers : ¬steps next = steps path := by
          simpa only [shape, List.head_cons, decide_eq_false_iff_not] using
            differs (by rw [shape]; exact List.cons_ne_nil next more)
        exact lt_of_le_of_ne (behind next (kept.subset List.mem_cons_self))
          fun same => nextDiffers (rank_eq_iff.mp same).symm
      rcases List.mem_cons.mp left with rfl | later
      · exact first
      · exact first.trans ((List.pairwise_cons.mp (rising.sublist kept)).1 other later)

theorem distinct_pairwise (sorted : paths.Pairwise fun left right => rank left ≤ rank right) :
    (distinct paths).Pairwise fun left right => rank left < rank right := by
  induction paths with
  | nil => exact List.Pairwise.nil
  | cons path rest inductionHypothesis =>
      obtain ⟨behind, restSorted⟩ := List.pairwise_cons.mp sorted
      have rising := inductionHypothesis restSorted
      refine List.pairwise_cons.mpr ⟨fun other left => ?_, rising.sublist (List.dropWhile_sublist _)⟩
      exact rank_lt_of_mem_dropWhile
        (fun other kept => behind other ((distinct_sublist rest).subset kept)) rising left

/-- The given paths in order: one spelling of each, by strictly rising ranks. -/
structure Listing (paths files : List Text) : Prop where
  given : ∀ file ∈ files, file ∈ paths
  complete : ∀ path ∈ paths, ∃ file ∈ files, steps file = steps path
  rising : files.Pairwise fun left right => rank left < rank right

theorem listing_sort (paths : List Text) : Listing paths (sort paths) where
  given _ listed := List.mem_mergeSort.mp ((distinct_sublist _).subset listed)
  complete _ present := exists_mem_distinct (List.mem_mergeSort.mpr present)
  rising := distinct_pairwise (pairwise_mergeSort paths)

end Path

end SdlWorkbench
