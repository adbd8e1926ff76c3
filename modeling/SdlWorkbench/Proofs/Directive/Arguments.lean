import SdlWorkbench.Directive.Arguments
/-!
Binding arguments in key order.

A key above all others is bound at the end, so binding the entries of a map one after the other gives
the map back.
-/

namespace SdlWorkbench.Arguments

theorem insertEntry_of_above {key value : Text} {entries : List (Text × Text)}
    (above : ∀ entry ∈ entries, entry.1 < key) :
    insertEntry key value entries = entries ++ [(key, value)] := by
  induction entries with
  | nil => rfl
  | cons first rest ih =>
      have below := above first List.mem_cons_self
      have notAbove : ¬ key < first.1 := fun before =>
        List.lt_irrefl _ (List.lt_trans below before)
      have notSame : key ≠ first.1 := by
        rintro rfl
        exact List.lt_irrefl _ below
      rw [insertEntry, if_neg notAbove, if_neg notSame,
        ih fun entry member => above entry (List.mem_cons_of_mem first member)]
      rfl

theorem entries_foldl_insert (entries : List (Text × Text)) (bound : Arguments)
    (ascending : (bound.entries ++ entries).Pairwise fun left right => left.1 < right.1) :
    (entries.foldl (fun arguments entry => arguments.insert entry.1 entry.2) bound).entries =
      bound.entries ++ entries := by
  induction entries generalizing bound with
  | nil => simp
  | cons first rest ih =>
      have above : ∀ entry ∈ bound.entries, entry.1 < first.1 := fun entry member =>
        (List.pairwise_append.mp ascending).2.2 entry member first List.mem_cons_self
      have appended : (bound.insert first.1 first.2).entries = bound.entries ++ [first] :=
        insertEntry_of_above above
      have whole := ih (bound.insert first.1 first.2) (by simpa [appended] using ascending)
      rw [List.foldl_cons, whole, appended, List.append_assoc, List.singleton_append]

theorem foldl_insert_entries (arguments : Arguments) :
    arguments.entries.foldl (fun arguments entry => arguments.insert entry.1 entry.2) empty =
      arguments :=
  ext_entries (entries_foldl_insert arguments.entries empty arguments.ascending)

end SdlWorkbench.Arguments
