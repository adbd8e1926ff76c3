import SdlWorkbench.Text.Basic
/-!
The arguments of a directive: a finite map from keys to values, kept in key order.

Two maps with the same bindings are equal, because the entries are strictly sorted by key.
`Arguments.insert` binds a key anew; a later binding of the same key takes the place of the earlier.
-/

namespace SdlWorkbench

/-- Keys with their values, in strictly ascending order of the keys. -/
structure Arguments where
  entries : List (Text × Text)
  ascending : entries.Pairwise fun left right => left.1 < right.1
deriving DecidableEq

namespace Arguments

def empty : Arguments :=
  ⟨[], List.Pairwise.nil⟩

instance : Inhabited Arguments := ⟨empty⟩

theorem ext_entries {left right : Arguments} (entriesEq : left.entries = right.entries) :
    left = right := by
  cases left
  cases right
  cases entriesEq
  rfl

def get? (arguments : Arguments) (key : Text) : Option Text :=
  (arguments.entries.find? fun entry => entry.1 = key).map Prod.snd

def insertEntry (key value : Text) : List (Text × Text) → List (Text × Text)
  | [] => [(key, value)]
  | entry :: rest =>
      if key < entry.1 then (key, value) :: entry :: rest
      else if key = entry.1 then (key, value) :: rest
      else entry :: insertEntry key value rest

theorem mem_insertEntry {key value : Text} {entries : List (Text × Text)} {entry : Text × Text}
    (member : entry ∈ insertEntry key value entries) :
    entry = (key, value) ∨ entry ∈ entries := by
  induction entries with
  | nil =>
      simpa [insertEntry] using member
  | cons first rest inductionHypothesis =>
      unfold insertEntry at member
      split at member
      · simpa using member
      · split at member
        · rcases List.mem_cons.mp member with isNew | old
          · exact Or.inl isNew
          · exact Or.inr (List.mem_cons_of_mem first old)
        · rcases List.mem_cons.mp member with isFirst | later
          · exact Or.inr (isFirst ▸ List.mem_cons_self)
          · rcases inductionHypothesis later with isNew | old
            · exact Or.inl isNew
            · exact Or.inr (List.mem_cons_of_mem first old)

theorem insertEntry_ascending (key value : Text) {entries : List (Text × Text)}
    (ascending : entries.Pairwise fun left right => left.1 < right.1) :
    (insertEntry key value entries).Pairwise fun left right => left.1 < right.1 := by
  induction entries with
  | nil =>
      simp [insertEntry]
  | cons first rest inductionHypothesis =>
      obtain ⟨aboveFirst, restAscending⟩ := List.pairwise_cons.mp ascending
      unfold insertEntry
      split
      · next below =>
          refine List.pairwise_cons.mpr ⟨?_, ascending⟩
          intro entry member
          rcases List.mem_cons.mp member with isFirst | later
          · exact isFirst ▸ below
          · exact List.lt_trans below (aboveFirst entry later)
      · next notBelow =>
          split
          · next keyEq =>
              refine List.pairwise_cons.mpr ⟨?_, restAscending⟩
              intro entry member
              exact keyEq ▸ aboveFirst entry member
          · next keyNe =>
              refine List.pairwise_cons.mpr ⟨?_, inductionHypothesis restAscending⟩
              intro entry member
              rcases mem_insertEntry member with isNew | old
              · subst isNew
                exact Std.lt_of_le_of_ne (Std.not_lt.mp notBelow) (Ne.symm keyNe)
              · exact aboveFirst entry old

def insert (arguments : Arguments) (key value : Text) : Arguments :=
  ⟨insertEntry key value arguments.entries, insertEntry_ascending key value arguments.ascending⟩

/-- Binds the keys one after the other, so the last binding of a key stands. -/
def ofList (bindings : List (Text × Text)) : Arguments :=
  bindings.foldl (fun arguments binding => arguments.insert binding.1 binding.2) empty

end Arguments

end SdlWorkbench
