import SdlWorkbench.Proofs.Editor.Rollback
/-!
Editing sessions keep schema, text and announced changes in step.

A call either fails and leaves all three, or it puts a schema with its text in their place and
announces the two.  What a run of calls keeps follows from that by induction on the calls.
-/

namespace SdlWorkbench

namespace Editor

inductive Call where
  | importText (text : Text)
  | apply (edit : Edit)
  | batch (edits : List Edit)

/-- Carries out a call and keeps of its result whether it failed. -/
def call (editor : Editor) : Call → Except EditorError Unit × Editor
  | .importText text => editor.importText text
  | .apply edit => ((editor.apply edit).1.map fun _ => (), (editor.apply edit).2)
  | .batch edits => ((editor.batch edits).1.map fun _ => (), (editor.batch edits).2)

def run (editor : Editor) : List Call → List (Except EditorError Unit) × Editor
  | [] => ([], editor)
  | call :: rest =>
      ((editor.call call).1 :: ((editor.call call).2.run rest).1, ((editor.call call).2.run rest).2)

def Started (editor : Editor) : Prop :=
  (∃ supply indent, editor = new supply indent) ∨
    ∃ supply indent text, ofText supply indent text = .ok editor

/-- Schema, text and announced changes belong together, after a number of calls that succeeded. -/
structure InStep (indent successes : Nat) (editor : Editor) : Prop where
  indent_eq : editor.indent = indent
  printed : editor.schema.print indent = .ok editor.sdl
  announced : ∀ change ∈ editor.changes, change.schema.print indent = .ok change.sdl
  counted : editor.changes.length = successes
  latest : ∀ change ∈ editor.changes.getLast?, change = ⟨editor.schema, editor.sdl⟩

def Unchanged (before after : Editor) : Prop :=
  ∃ supply, after = { before with supply }

def Announced (before after : Editor) : Prop :=
  ∃ schema sdl supply, schema.print before.indent = .ok sdl ∧
    after = { before with schema, sdl, changes := before.changes ++ [⟨schema, sdl⟩], supply }

/-- The two ways in which a call ends. -/
def Settles {α : Type} (before : Editor) (ended : Except EditorError α × Editor) : Prop :=
  (∃ error, ended.1 = .error error ∧ before.Unchanged ended.2) ∨
    ∃ value, ended.1 = .ok value ∧ before.Announced ended.2

variable {α : Type} {editor after : Editor} {indent successes : Nat}

theorem commit_eq_ok {schema : Schema} (done : editor.commit schema = .ok after) :
    ∃ sdl, schema.print editor.indent = .ok sdl ∧
      after = { editor with schema, sdl, changes := editor.changes ++ [⟨schema, sdl⟩] } := by
  unfold commit at done
  split at done
  · cases done
  · next sdl printed =>
      cases done
      exact ⟨sdl, printed, rfl⟩

theorem settles_commit (editor : Editor) (schema : Schema) (supply : IdSupply) (value : α) :
    editor.Settles (match editor.commit schema with
      | .error error => (.error error, { editor with supply })
      | .ok after => (.ok value, { after with supply })) := by
  split
  · exact .inl ⟨_, rfl, supply, rfl⟩
  · next committed =>
      obtain ⟨sdl, printed, rfl⟩ := commit_eq_ok committed
      exact .inr ⟨value, rfl, schema, sdl, supply, printed, rfl⟩

theorem settles_importText (editor : Editor) (text : Text) :
    editor.Settles (editor.importText text) := by
  unfold importText
  split
  · exact .inl ⟨_, rfl, editor.supply, rfl⟩
  · exact settles_commit editor _ _ _

theorem settles_apply (editor : Editor) (edit : Edit) : editor.Settles (editor.apply edit) := by
  unfold apply
  dsimp only
  split
  · exact .inl ⟨_, rfl, editor.supply.advance, rfl⟩
  · exact settles_commit editor _ _ _

theorem settles_batch (editor : Editor) (edits : List Edit) :
    editor.Settles (editor.batch edits) := by
  unfold batch
  split
  · exact .inl ⟨_, rfl, _, rfl⟩
  · exact settles_commit editor _ _ _

theorem Settles.forget {before : Editor} {ended : Except EditorError α × Editor}
    (settles : before.Settles ended) : before.Settles (ended.1.map fun _ => (), ended.2) := by
  rcases settles with ⟨error, failed, unchanged⟩ | ⟨value, done, announced⟩
  · exact .inl ⟨error, by rw [failed]; rfl, unchanged⟩
  · exact .inr ⟨(), by rw [done]; rfl, announced⟩

theorem settles_call (editor : Editor) (made : Call) : editor.Settles (editor.call made) := by
  cases made with
  | importText text => exact editor.settles_importText text
  | apply edit => exact (editor.settles_apply edit).forget
  | batch edits => exact (editor.settles_batch edits).forget

theorem unchanged_of_call_error {made : Call} {error : EditorError}
    (failed : (editor.call made).1 = .error error) : editor.Unchanged (editor.call made).2 := by
  rcases editor.settles_call made with ⟨_, _, unchanged⟩ | ⟨_, done, _⟩
  · exact unchanged
  · rw [done] at failed
    cases failed

theorem inStep_of_printed {schema : Schema} {sdl : Text}
    (printed : schema.print indent = .ok sdl) (supply : IdSupply) :
    InStep indent 0 { indent, schema, sdl, changes := [], supply } := by
  refine ⟨rfl, printed, ?_, rfl, ?_⟩
  · intro change impossible
    cases impossible
  · intro change impossible
    cases impossible

theorem inStep_of_started (started : editor.Started) : editor.InStep editor.indent 0 := by
  rcases started with ⟨supply, indent, rfl⟩ | ⟨supply, indent, text, read⟩
  · exact inStep_of_printed rfl supply
  · unfold ofText at read
    split at read
    · cases read
    · unfold ofSchema at read
      split at read
      · cases read
      · next printed =>
          cases read
          exact inStep_of_printed printed _

theorem InStep.unchanged (inStep : editor.InStep indent successes)
    (unchanged : editor.Unchanged after) : after.InStep indent successes := by
  obtain ⟨supply, rfl⟩ := unchanged
  exact ⟨inStep.indent_eq, inStep.printed, inStep.announced, inStep.counted, inStep.latest⟩

theorem InStep.announce (inStep : editor.InStep indent successes)
    (announced : editor.Announced after) : after.InStep indent (successes + 1) := by
  obtain ⟨schema, sdl, supply, printed, rfl⟩ := announced
  rw [inStep.indent_eq] at printed
  refine ⟨inStep.indent_eq, printed, ?_, ?_, ?_⟩
  · intro change member
    rcases List.mem_append.mp member with old | new
    · exact inStep.announced change old
    · obtain rfl := List.mem_singleton.mp new
      exact printed
  · rw [List.length_append, inStep.counted]
    rfl
  · intro change last
    rw [List.getLast?_concat] at last
    exact (Option.mem_some_iff.mp last).symm

theorem InStep.call (inStep : editor.InStep indent successes) (made : Call) :
    (editor.call made).2.InStep indent
      (successes + [(editor.call made).1].countP Except.isOk) := by
  rcases editor.settles_call made with ⟨error, failed, unchanged⟩ | ⟨value, done, announced⟩
  · rw [failed]
    exact inStep.unchanged unchanged
  · rw [done]
    exact inStep.announce announced

theorem InStep.run (inStep : editor.InStep indent successes) (calls : List Call) :
    (editor.run calls).2.InStep indent
      (successes + (editor.run calls).1.countP Except.isOk) := by
  induction calls generalizing editor successes with
  | nil => exact inStep
  | cons made rest ih =>
      have later := ih (inStep.call made)
      rw [Editor.run, ← List.singleton_append, List.countP_append, ← Nat.add_assoc]
      exact later

/-- In every state that a session reaches, the text is that of the schema, every announced change was
printed, there is one for each call that succeeded and the last is the present state.  A call that fails
leaves all of this as it was, also when the edits of a batch were written before one was refused. -/
theorem run_inStep {start : Editor} (started : start.Started) (calls : List Call) :
    (start.run calls).2.InStep start.indent ((start.run calls).1.countP Except.isOk) ∧
    (∀ made error, ((start.run calls).2.call made).1 = .error error →
      ((start.run calls).2.call made).2.schema = (start.run calls).2.schema ∧
      ((start.run calls).2.call made).2.sdl = (start.run calls).2.sdl ∧
      ((start.run calls).2.call made).2.changes = (start.run calls).2.changes) ∧
    ∀ edits error, ((start.run calls).2.batch edits).1 = .error error →
      (editInPlace (Edit.inPlaceAll (start.run calls).2.supply edits)).run (start.run calls).2 =
        .error error (start.run calls).2 := by
  refine ⟨?_, ?_, fun edits error failed => run_editInPlace_of_batch_error failed⟩
  · have reached := (inStep_of_started started).run calls
    rwa [Nat.zero_add] at reached
  · intro made error failed
    obtain ⟨supply, same⟩ := unchanged_of_call_error failed
    rw [same]
    exact ⟨rfl, rfl, rfl⟩

def afterImport : Editor :=
  ((new ⟨0⟩).run [.importText "enum Role \x7b A \x7d".toList]).2

/-- A type is added, and then one that is not there is to be deleted. -/
def refusedBatch : List Edit :=
  [.addType .object (Name.literal "Entry"), .deleteType (Id.ofNat 9)]

theorem afterImport_inStep :
    (new ⟨0⟩).Started ∧ afterImport.InStep 2 1 ∧
    (afterImport.call (.batch refusedBatch)).1 =
      .error (.refused (.unknownType (Id.ofNat 9 : TypeId).text)) ∧
    (afterImport.call (.batch refusedBatch)).2.schema = afterImport.schema ∧
    (afterImport.batch refusedBatch).1 =
      .error (.refused (.unknownType (Id.ofNat 9 : TypeId).text)) ∧
    (editInPlace (Edit.inPlaceAll afterImport.supply refusedBatch)).run afterImport =
      .error (.refused (.unknownType (Id.ofNat 9 : TypeId).text)) afterImport := by
  have started : (new ⟨0⟩).Started := .inl ⟨⟨0⟩, 2, rfl⟩
  have one : ((new ⟨0⟩).run [.importText "enum Role \x7b A \x7d".toList]).1.countP Except.isOk =
      1 := by
    decide +kernel
  have called : (afterImport.call (.batch refusedBatch)).1 =
      .error (.refused (.unknownType (Id.ofNat 9 : TypeId).text)) := by
    decide +kernel
  have failed : (afterImport.batch refusedBatch).1 =
      .error (.refused (.unknownType (Id.ofNat 9 : TypeId).text)) := by
    decide +kernel
  obtain ⟨reached, kept, undone⟩ :=
    run_inStep started [.importText "enum Role \x7b A \x7d".toList]
  rw [one] at reached
  exact ⟨started, reached, called, (kept _ _ called).1, failed, undone _ _ failed⟩

end Editor

end SdlWorkbench
