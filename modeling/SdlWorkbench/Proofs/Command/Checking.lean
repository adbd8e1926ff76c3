import SdlWorkbench.Proofs.Command.Reports
import SdlWorkbench.Proofs.Files.Order
import SdlWorkbench.Proofs.Files.Writing
/-!
A check foretells formatting.

Formatting stops at the first file that cannot be read or printed.  Which file that is and what becomes
of the files before it does not depend on whether the run only checks, because no two of the files lie
at one place and so no rewritten file is judged again.
-/

namespace SdlWorkbench

namespace Verdict

variable {indent : Nat} {source : Text}

/-- When a verdict is right for a text. -/
inductive Holds (indent : Nat) (source : Text) : Verdict → Prop
  | invalid {errors : List SyntaxError} : Document.ofText source = .error errors →
      Holds indent source (invalid errors)
  | canonical {document : Document} {printed : Text} : Document.ofText source = .ok document →
      document.print indent = .ok printed →
      (if printed = [] then [] else printed ++ ['\n']) = source →
      Holds indent source canonical
  | different {document : Document} {printed formatted : Text} :
      Document.ofText source = .ok document → document.print indent = .ok printed →
      formatted = (if printed = [] then [] else printed ++ ['\n']) → formatted ≠ source →
      Holds indent source (different formatted)

/-- A text has a verdict, or it can be read but not printed. -/
theorem ofText_cases (indent : Nat) (source : Text) :
    (∃ verdict, Verdict.ofText indent source = .ok verdict ∧ verdict.Holds indent source) ∨
      ∃ document error, Verdict.ofText indent source = .error error ∧
        Document.ofText source = .ok document ∧ document.print indent = .error error := by
  rw [Verdict.ofText]
  cases read : Document.ofText source with
  | error errors => exact .inl ⟨_, rfl, .invalid read⟩
  | ok document =>
      dsimp only
      cases printed : document.print indent with
      | error error => exact .inr ⟨document, error, rfl, rfl, printed⟩
      | ok sdl =>
          dsimp only
          have spelled := Text.asFile_eq sdl
          by_cases same : Text.asFile sdl = source
          · exact .inl ⟨canonical, by rw [if_pos same],
              .canonical read printed (spelled.symm.trans same)⟩
          · exact .inl ⟨_, by rw [if_neg same], .different read printed spelled same⟩

variable {store : Store} {file other : Text} {location : Location}

theorem locate_save (verdict : Verdict) (store : Store) (file other : Text) :
    (verdict.save store file).locate other = store.locate other := by
  cases verdict with
  | different formatted => exact Store.locate_write store file formatted other
  | invalid _ | canonical => rfl

theorem fileAt?_save (verdict : Verdict)
    (untouched : ∀ formatted, verdict = different formatted → store.locate file ≠ .ok location) :
    (verdict.save store file).fileAt? location = store.fileAt? location := by
  cases verdict with
  | different formatted => exact Store.fileAt?_write_of_ne (untouched formatted rfl) formatted
  | invalid _ | canonical => rfl

theorem read_save_of_ne (verdict : Verdict) (apart : store.locate file ≠ store.locate other) :
    (verdict.save store file).read other = store.read other := by
  cases verdict with
  | different formatted => exact Store.read_write_of_ne apart formatted
  | invalid _ | canonical => rfl

end Verdict

namespace Formatting

variable {indent : Nat} {store after : Store} {file : Text} {files : List Text} {entry : JudgedFile}
  {handled : List JudgedFile} {halted : Option CommandError} {error : CommandError}

/-- Why formatting does not go past a file. -/
inductive Obstacle (indent : Nat) (store : Store) (file : Text) : CommandError → Prop
  | unreadable {fault : FileFault} : store.read file = .error fault →
      Obstacle indent store file (.fileFault file fault)
  | unprintable {source : Text} {document : Document} {error : PrintError} :
      store.read file = .ok source → Document.ofText source = .ok document →
      document.print indent = .error error → Obstacle indent store file (.unprintable file error)

theorem Obstacle.exitCode_eq (obstacle : Obstacle indent store file error) : error.exitCode = 1 := by
  cases obstacle <;> rfl

/-- An entry tells what a file holds and what is right for it. -/
def IsJudged (indent : Nat) (store : Store) (entry : JudgedFile) : Prop :=
  store.read entry.file = .ok entry.source ∧ entry.verdict.Holds indent entry.source

/-- What a file does to a run depends on its content only: it ends the run, or it is judged and the run
goes on. -/
theorem ofFiles_cases (indent : Nat) (store : Store) (file : Text) :
    (∃ error, Obstacle indent store file error ∧
      ∀ check after rest, after.read file = store.read file →
        ofFiles indent check after (file :: rest) = ⟨[], some error, after⟩) ∨
    ∃ entry, entry.file = file ∧ IsJudged indent store entry ∧
      ∀ check after rest, after.read file = store.read file →
        ofFiles indent check after (file :: rest) =
          let others := ofFiles indent check
            (if check then after else entry.verdict.save after file) rest
          { others with judged := entry :: others.judged } := by
  cases held : store.read file with
  | error fault =>
      refine .inl ⟨_, .unreadable held, fun check after rest reads => ?_⟩
      rw [ofFiles, reads]
  | ok source =>
      rcases Verdict.ofText_cases indent source with
        ⟨verdict, judged, holds⟩ | ⟨document, error, judged, read, unprinted⟩
      · refine .inr ⟨⟨file, source, verdict⟩, rfl, ⟨held, holds⟩, fun check after rest reads => ?_⟩
        rw [ofFiles, reads]
        dsimp only
        rw [judged]
      · refine .inl ⟨_, .unprintable held read unprinted, fun check after rest reads => ?_⟩
        rw [ofFiles, reads]
        dsimp only
        rw [judged]

/-- The files are handled in order, up to the first one that formatting does not go past. -/
structure Handles (indent : Nat) (store : Store) (files : List Text) (handled : List JudgedFile)
    (halted : Option CommandError) : Prop where
  judged : ∀ entry ∈ handled, IsJudged indent store entry
  ends : (halted = none ∧ files = handled.map JudgedFile.file) ∨
    ∃ file rest error, halted = some error ∧ Obstacle indent store file error ∧
      files = handled.map JudgedFile.file ++ file :: rest

theorem Handles.nil : Handles indent store [] [] none where
  judged _ present := absurd present List.not_mem_nil
  ends := .inl ⟨rfl, rfl⟩

theorem Handles.stop (obstacle : Obstacle indent store file error) (rest : List Text) :
    Handles indent store (file :: rest) [] (some error) where
  judged _ present := absurd present List.not_mem_nil
  ends := .inr ⟨file, rest, error, rfl, obstacle, rfl⟩

theorem Handles.cons (judged : IsJudged indent store entry)
    (others : Handles indent store files handled halted) :
    Handles indent store (entry.file :: files) (entry :: handled) halted where
  judged := List.forall_mem_cons.mpr ⟨judged, others.judged⟩
  ends := by
    rcases others.ends with ⟨goesOn, all⟩ | ⟨file, rest, error, stops, obstacle, split⟩
    · exact .inl ⟨goesOn, by rw [all, List.map_cons]⟩
    · exact .inr ⟨file, rest, error, stops, obstacle,
        by rw [split, List.map_cons, List.cons_append]⟩

theorem Handles.sublist (handles : Handles indent store files handled halted) :
    (handled.map JudgedFile.file).Sublist files := by
  rcases handles.ends with ⟨-, all⟩ | ⟨file, rest, error, -, -, split⟩
  · exact all ▸ List.Sublist.refl _
  · exact split ▸ List.sublist_append_left _ _

/-- In both stores paths lead to the same places, and the given files hold the same. -/
structure ReadsAlike (store after : Store) (files : List Text) : Prop where
  leads : ∀ path, after.locate path = store.locate path
  reads : ∀ file ∈ files, after.read file = store.read file

theorem ReadsAlike.rest (alike : ReadsAlike store after (file :: files)) :
    ReadsAlike store after files :=
  ⟨alike.leads, (List.forall_mem_cons.mp alike.reads).2⟩

/-- Rewriting a file changes none of the files that are still to be judged. -/
theorem ReadsAlike.save (verdict : Verdict)
    (apart : ∀ other ∈ files, store.locate file ≠ store.locate other)
    (alike : ReadsAlike store after (file :: files)) :
    ReadsAlike store (verdict.save after file) files where
  leads path := (verdict.locate_save after file path).trans (alike.leads path)
  reads other present := by
    have stillApart : after.locate file ≠ after.locate other := by
      rw [alike.leads, alike.leads]
      exact apart other present
    exact (verdict.read_save_of_ne stillApart).trans (alike.rest.reads other present)

def saved (store : Store) (handled : List JudgedFile) : Store :=
  handled.foldl (fun store entry => entry.verdict.save store entry.file) store

/-- A run that only checks and one that rewrites handle the same files in the same way, also when they
start on a store in which other files were already rewritten. -/
theorem exists_handles (indent : Nat) (store : Store)
    (apart : files.Pairwise fun left right => store.locate left ≠ store.locate right) :
    ∃ handled halted, Handles indent store files handled halted ∧
      ∀ check after, ReadsAlike store after files →
        ofFiles indent check after files =
          ⟨handled, halted, if check then after else saved after handled⟩ := by
  induction files with
  | nil =>
      refine ⟨[], none, .nil, fun check after _ => ?_⟩
      rw [ofFiles]
      cases check <;> rfl
  | cons file rest ih =>
      obtain ⟨fileApart, restApart⟩ := List.pairwise_cons.mp apart
      obtain ⟨handled, halted, handles, runs⟩ := ih restApart
      rcases ofFiles_cases indent store file with
        ⟨error, obstacle, stops⟩ | ⟨entry, rfl, judged, goesOn⟩
      · refine ⟨[], some error, .stop obstacle rest, fun check after alike => ?_⟩
        rw [stops check after rest (alike.reads file List.mem_cons_self)]
        cases check <;> rfl
      · refine ⟨entry :: handled, halted, handles.cons judged, fun check after alike => ?_⟩
        rw [goesOn check after rest (alike.reads entry.file List.mem_cons_self)]
        cases check with
        | true =>
            rw [if_pos rfl, runs true after alike.rest]
            rfl
        | false =>
            rw [if_neg Bool.false_ne_true, runs false _ (alike.save entry.verdict fileApart)]
            rfl

theorem locate_saved (store : Store) (handled : List JudgedFile) (path : Text) :
    (saved store handled).locate path = store.locate path := by
  induction handled generalizing store with
  | nil => rfl
  | cons entry rest ih => exact (ih _).trans (entry.verdict.locate_save store entry.file path)

theorem fileAt?_saved {location : Location}
    (untouched : ∀ entry ∈ handled, ∀ formatted, entry.verdict = .different formatted →
      store.locate entry.file ≠ .ok location) :
    (saved store handled).fileAt? location = store.fileAt? location := by
  induction handled generalizing store with
  | nil => rfl
  | cons entry rest ih =>
      obtain ⟨first, others⟩ := List.forall_mem_cons.mp untouched
      refine (ih fun other present formatted changes => ?_).trans (entry.verdict.fileAt?_save first)
      rw [Verdict.locate_save]
      exact others other present formatted changes

theorem read_saved (apart : ∀ entry ∈ handled, store.locate entry.file ≠ store.locate file) :
    (saved store handled).read file = store.read file :=
  Store.read_congr (locate_saved store handled file) fun _ leads =>
    fileAt?_saved fun entry present _ _ same => apart entry present (same.trans leads.symm)

/-- The changed files hold their new texts, and nothing else has changed. -/
structure Rewrites (store : Store) (handled : List JudgedFile) (after : Store) : Prop where
  leads : ∀ path, after.locate path = store.locate path
  rewritten : ∀ entry ∈ handled, ∀ formatted, entry.verdict = .different formatted →
    after.read entry.file = .ok formatted
  untouched : ∀ location, (∀ entry ∈ handled, ∀ formatted, entry.verdict = .different formatted →
    store.locate entry.file ≠ .ok location) → after.fileAt? location = store.fileAt? location

theorem read_saved_of_mem
    (apart : handled.Pairwise fun left right => store.locate left.file ≠ store.locate right.file)
    (present : entry ∈ handled) (reads : store.read entry.file = .ok entry.source)
    {formatted : Text} (changes : entry.verdict = .different formatted) :
    (saved store handled).read entry.file = .ok formatted := by
  obtain ⟨before, later, rfl⟩ := List.append_of_mem present
  obtain ⟨-, fromEntry, beforeEntry⟩ := List.pairwise_append.mp apart
  have reached : (saved store before).read entry.file = .ok entry.source :=
    (read_saved fun other present => beforeEntry other present entry List.mem_cons_self).trans reads
  have split : saved store (before ++ entry :: later) =
      saved ((saved store before).write entry.file formatted) later := by
    rw [saved, List.foldl_append, List.foldl_cons, changes]
    rfl
  rw [split, read_saved]
  · exact Store.read_write_self (Store.isFile_of_read reached) formatted
  · intro other present
    rw [Store.locate_write, Store.locate_write, locate_saved, locate_saved]
    exact ((List.pairwise_cons.mp fromEntry).1 other present).symm

theorem Handles.rewrites (handles : Handles indent store files handled halted)
    (apart : files.Pairwise fun left right => store.locate left ≠ store.locate right) :
    Rewrites store handled (saved store handled) where
  leads := locate_saved store handled
  rewritten entry present formatted changes := by
    have handledApart := apart.sublist handles.sublist
    rw [List.pairwise_map] at handledApart
    exact read_saved_of_mem handledApart present (handles.judged entry present).1 changes
  untouched _ untouched := fileAt?_saved untouched

/-- What a run makes its exit code from.  An obstacle outweighs syntax errors, and syntax errors outweigh
files that a check finds to have another form. -/
def exitCode (check : Bool) (handled : List JudgedFile) (halted : Option CommandError) : Nat :=
  if halted.isSome then 1
  else if failures handled ≠ 0 then 3
  else if check = true ∧ changedFiles handled ≠ [] then 1
  else 0

theorem Shows.exitCode_eq {report : Report} {style : Style} {check : Bool}
    (shown : Shows report style check handled halted)
    (handles : Handles indent store files handled halted) :
    report.exitCode = exitCode check handled halted := by
  rw [Report.exitCode, shown.error, failure?, exitCode]
  rcases handles.ends with ⟨goesOn, -⟩ | ⟨file, rest, error, stops, obstacle, -⟩
  · simp only [goesOn, Option.isSome_none, Bool.false_eq_true, if_false]
    by_cases failed : failures handled ≠ 0
    · rw [if_pos failed, if_pos failed]
      rfl
    · rw [if_neg failed, if_neg failed]
      by_cases found : check = true ∧ changedFiles handled ≠ []
      · rw [if_pos found, if_pos found]
        rfl
      · rw [if_neg found, if_neg found]
  · rw [stops]
    exact obstacle.exitCode_eq

end Formatting

namespace Store

variable {store : Store} {paths : List Text}

theorem flatMapM_filesAt (extensions : List Text)
    (areFiles : ∀ path ∈ paths, store.isFile path = true) :
    paths.flatMapM (store.filesAt extensions) = .ok paths := by
  induction paths with
  | nil => rfl
  | cons path rest ih =>
      obtain ⟨isFile, others⟩ := List.forall_mem_cons.mp areFiles
      rw [List.flatMapM_cons, filesAt, if_pos isFile, ih others]
      rfl

theorem schemaFiles_of_isFile (settings : Settings) (given : paths ≠ [])
    (areFiles : ∀ path ∈ paths, store.isFile path = true) :
    store.schemaFiles settings paths = .ok (Path.sort paths) := by
  have notEmpty : paths.isEmpty = false := by rwa [List.isEmpty_eq_false_iff]
  rw [schemaFiles, notEmpty, if_neg Bool.false_ne_true, flatMapM_filesAt _ areFiles]
  change (if paths.isEmpty = true then _ else _) = _
  rw [notEmpty]
  rfl

end Store

/-- A run that only checks foretells the run that rewrites.  Given files of which no two are one, both go
through them in order, handle the same files with the same verdicts, and stop at the same one, if they
stop.  So both show the same files as changed and the same number of failures.  The check leaves the store
alone, and the other run gives the changed files their canonical text. -/
theorem formatFiles_foretold (style : Style) (settings : Settings) {paths : List Text} {store : Store}
    (given : paths ≠ []) (areFiles : ∀ path ∈ paths, store.isFile path = true)
    (apart : ∀ left ∈ paths, ∀ right ∈ paths, store.locate left = store.locate right →
      Path.steps left = Path.steps right) :
    ∃ files handled halted after, Path.Listing paths files ∧
      Formatting.Handles settings.indent store files handled halted ∧
      Formatting.Rewrites store handled after ∧
      ∀ check,
        Formatting.Shows (formatFiles style settings paths check store) style check handled halted ∧
        (formatFiles style settings paths check store).store = (if check then store else after) ∧
        (formatFiles style settings paths check store).exitCode =
          Formatting.exitCode check handled halted := by
  have listing := Path.listing_sort paths
  have filesApart : (Path.sort paths).Pairwise fun left right =>
      store.locate left ≠ store.locate right := by
    refine listing.rising.imp_of_mem fun {left right} leftListed rightListed behind same => ?_
    have sameSteps := apart left (listing.given left leftListed) right
      (listing.given right rightListed) same
    exact behind.ne (Path.rank_eq_iff.mpr sameSteps)
  obtain ⟨handled, halted, handles, runs⟩ :=
    Formatting.exists_handles settings.indent store filesApart
  refine ⟨Path.sort paths, handled, halted, Formatting.saved store handled, listing, handles,
    handles.rewrites filesApart, fun check => ?_⟩
  have reported : formatFiles style settings paths check store = Formatting.report style check
      ⟨handled, halted, if check then store else Formatting.saved store handled⟩ := by
    rw [formatFiles, Store.schemaFiles_of_isFile settings given areFiles]
    dsimp only
    rw [runs check store ⟨fun _ => rfl, fun _ _ => rfl⟩]
  have shown := Formatting.report_shows style check
    ⟨handled, halted, if check then store else Formatting.saved store handled⟩
  rw [reported]
  exact ⟨shown, Formatting.report_store .., shown.exitCode_eq handles⟩

/-- A canonical file, one in another form, and one with a syntax error. -/
def mixedStore : Store :=
  Store.ofPaths [("lib/canonical.sdl".toList, .text "type A \x7b\n\x7d\n".toList),
    ("lib/loose.sdl".toList, .text "type   A".toList),
    ("broken.sdl".toList, .text "type \x7b".toList)] []

def mixedPaths : List Text :=
  ["lib/loose.sdl".toList, "lib/canonical.sdl".toList, "./broken.sdl".toList]

theorem mixedStore_foretold :
    (∃ files handled halted after, Path.Listing mixedPaths files ∧
      Formatting.Handles 2 mixedStore files handled halted ∧
      Formatting.Rewrites mixedStore handled after ∧
      ∀ check,
        Formatting.Shows (formatFiles ⟨.json, false⟩ {} mixedPaths check mixedStore) ⟨.json, false⟩
          check handled halted ∧
        (formatFiles ⟨.json, false⟩ {} mixedPaths check mixedStore).store =
          (if check then mixedStore else after) ∧
        (formatFiles ⟨.json, false⟩ {} mixedPaths check mixedStore).exitCode =
          Formatting.exitCode check handled halted) ∧
    (formatFiles ⟨.json, false⟩ {} mixedPaths true mixedStore).results =
      ("\x7b\n  \"changed\": [\n    \"lib/loose.sdl\"\n  ],\n  \"check\": true,\n" ++
        "  \"errors\": [\n    \x7b\n      \"file\": \"./broken.sdl\",\n      \"message\": " ++
        "\"unexpected token at 5..6: expected type name, found '\x7b' ('\x7b')\"\n    \x7d\n  ],\n" ++
        "  \"failed\": 1,\n  \"files\": 3\n\x7d\n").toList := by
  have areFiles : ∀ path ∈ mixedPaths, mixedStore.isFile path = true := by decide +kernel
  refine ⟨formatFiles_foretold ⟨.json, false⟩ {} (by decide) areFiles (by decide +kernel), ?_⟩
  have reversed : ∀ first second third, Path.precedes first second = false →
      Path.precedes second third = false →
      [first, second, third].mergeSort Path.precedes = [third, second, first] := by
    intro first second third firstBehind secondBehind
    simp [List.mergeSort, firstBehind, secondBehind]
  have sorted : Path.sort mixedPaths =
      ["./broken.sdl".toList, "lib/canonical.sdl".toList, "lib/loose.sdl".toList] := by
    rw [Path.sort, mixedPaths, reversed _ _ _ (by decide) (by decide)]
    decide
  rw [formatFiles, Store.schemaFiles_of_isFile {} (by decide) areFiles, sorted]
  decide +kernel

end SdlWorkbench
