import SdlWorkbench.Files.Store
/-!
What a written file holds.

Writing keeps every path where it leads, puts the text into the one file and leaves all others.
-/

namespace SdlWorkbench

namespace Store

variable {store : Store} {path text : Text} {location : Location}

theorem read_eq_ok_iff : store.read path = .ok text ↔
    ∃ location, store.locate path = .ok location ∧
      store.fileAt? location = some (.text text) := by
  rw [read]
  cases store.locate path with
  | error fault => simp
  | ok location =>
      simp only [Except.ok.injEq, exists_eq_left']
      cases store.fileAt? location with
      | none => simp
      | some content => cases content <;> simp

theorem isFile_iff : store.isFile path = true ↔
    ∃ location content, store.locate path = .ok location ∧
      store.fileAt? location = some content := by
  rw [isFile]
  cases store.locate path with
  | error fault => simp
  | ok location => simp [Option.isSome_iff_exists]

theorem isFile_of_read (readable : store.read path = .ok text) : store.isFile path = true := by
  obtain ⟨location, leads, holds⟩ := read_eq_ok_iff.mp readable
  exact isFile_iff.mpr ⟨location, _, leads, holds⟩

theorem write_eq (leads : store.locate path = .ok location) (text : Text) :
    store.write path text = { store with files := replace location (.text text) store.files } := by
  rw [write, leads]

theorem fileAt?_write_self (leads : store.locate path = .ok location)
    (isFile : (store.fileAt? location).isSome = true) (text : Text) :
    (store.write path text).fileAt? location = some (.text text) := by
  rw [write_eq leads]
  exact lookup_replace_self location (.text text) store.files isFile

theorem fileAt?_write_of_ne (apart : store.locate path ≠ .ok location) (text : Text) :
    (store.write path text).fileAt? location = store.fileAt? location := by
  cases leads : store.locate path with
  | error fault => rw [write, leads]
  | ok place =>
      rw [write_eq leads]
      exact lookup_replace_other (.text text) store.files fun same => apart (by rw [leads, same])

/-- A path is read alike in two stores in which it leads to the same content. -/
theorem read_congr {after : Store} (leads : after.locate path = store.locate path)
    (holds : ∀ location, store.locate path = .ok location →
      after.fileAt? location = store.fileAt? location) : after.read path = store.read path := by
  rw [read, read, leads]
  cases found : store.locate path with
  | error fault => rfl
  | ok location =>
      dsimp only
      rw [holds location found]

theorem read_write_of_ne {other : Text} (apart : store.locate path ≠ store.locate other)
    (text : Text) : (store.write path text).read other = store.read other :=
  read_congr (locate_write store path text other) fun _ leads =>
    fileAt?_write_of_ne (fun same => apart (same.trans leads.symm)) text

theorem read_write_self (isFile : store.isFile path = true) (text : Text) :
    (store.write path text).read path = .ok text := by
  obtain ⟨location, content, leads, holds⟩ := isFile_iff.mp isFile
  refine read_eq_ok_iff.mpr ⟨location, (locate_write store path text path).trans leads, ?_⟩
  exact fileAt?_write_self leads (by rw [holds]; rfl) text

end Store

end SdlWorkbench
