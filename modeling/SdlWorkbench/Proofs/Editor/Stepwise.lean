import SdlWorkbench.Proofs.Editor.Session
/-!
A batch against its edits one at a time.

Both carry out the same edits with the same ids.  Edits that are made one at a time are printed and
announced one at a time as well, so they stop where a schema on the way cannot be printed, which a batch
does not look at.
-/

namespace SdlWorkbench

namespace Schema

variable {schema between : Schema} {supply supply' : IdSupply}

theorem applyAll_append_of_refused {first : List Edit} {outcomes : List EditOutcome} {edit : Edit}
    {refusal : SchemaError}
    (done : schema.applyAll supply first = (.ok (outcomes, between), supply'))
    (refused : between.apply supply'.fresh edit = .error refusal) (later : List Edit) :
    schema.applyAll supply (first ++ edit :: later) = (.error refusal, supply'.advance) := by
  induction first generalizing schema supply outcomes with
  | nil =>
      cases done
      exact applyAll_cons_of_error refused later
  | cons made rest ih =>
      cases started : schema.apply supply.fresh made with
      | error error =>
          rw [applyAll_cons_of_error started] at done
          cases done
      | ok pair =>
          rw [applyAll_cons_of_ok started] at done
          rcases ran : pair.2.applyAll supply.advance rest with ⟨failed | ended, last⟩
          · rw [ran] at done
            cases done
          · rw [ran] at done
            cases done
            rw [List.cons_append, applyAll_cons_of_ok started, ih ran]
            rfl

end Schema

namespace Editor

variable {editor after last stopped : Editor} {edit : Edit} {edits : List Edit}
  {outcome : EditOutcome} {outcomes : List EditOutcome} {error : EditorError}

/-- Carries out edits one at a time, each with a text and an announcement of its own, and stops at the
first that fails. -/
def applyEach (editor : Editor) : List Edit → Except EditorError (List EditOutcome) × Editor
  | [] => (.ok [], editor)
  | edit :: rest =>
      match editor.apply edit with
      | (.error error, after) => (.error error, after)
      | (.ok outcome, after) =>
          ((after.applyEach rest).1.map fun outcomes => outcome :: outcomes,
            (after.applyEach rest).2)

/-- The text is that of the schema. -/
def Printed (editor : Editor) : Prop :=
  editor.schema.print editor.indent = .ok editor.sdl

theorem apply_eq_ok (done : editor.apply edit = (.ok outcome, after)) :
    editor.schema.apply editor.supply.fresh edit = .ok (outcome, after.schema) ∧
      after.supply = editor.supply.advance ∧ after.indent = editor.indent ∧ after.Printed := by
  unfold apply at done
  dsimp only at done
  split at done
  · cases done
  · next ran =>
      split at done
      · cases done
      · next committed =>
          obtain ⟨sdl, printed, rfl⟩ := commit_eq_ok committed
          cases done
          exact ⟨ran, rfl, rfl, printed⟩

theorem apply_eq_error (failed : editor.apply edit = (.error error, after)) :
    (∃ refusal, error = .refused refusal ∧
      editor.schema.apply editor.supply.fresh edit = .error refusal) ∨
    ∃ fault outcome schema, error = .unprintable fault ∧
      editor.schema.apply editor.supply.fresh edit = .ok (outcome, schema) ∧
      schema.print editor.indent = .error fault := by
  unfold apply at failed
  dsimp only at failed
  split at failed
  · next refusal ran =>
      cases failed
      exact .inl ⟨refusal, rfl, ran⟩
  · next outcome schema ran =>
      rw [commit] at failed
      cases printed : schema.print editor.indent with
      | error fault =>
          rw [printed] at failed
          cases failed
          exact .inr ⟨fault, outcome, schema, rfl, ran, printed⟩
      | ok sdl =>
          rw [printed] at failed
          cases failed

theorem applyEach_cons_of_ok (first : editor.apply edit = (.ok outcome, after)) (rest : List Edit) :
    editor.applyEach (edit :: rest) =
      ((after.applyEach rest).1.map fun outcomes => outcome :: outcomes,
        (after.applyEach rest).2) := by
  rw [applyEach, first]

theorem applyEach_cons_of_error (first : editor.apply edit = (.error error, after))
    (rest : List Edit) : editor.applyEach (edit :: rest) = (.error error, after) := by
  rw [applyEach, first]

/-- Edits that are made one at a time are carried out as they are together, and leave a schema with its
text. -/
theorem applyAll_of_applyEach (printed : editor.Printed)
    (done : editor.applyEach edits = (.ok outcomes, last)) :
    editor.schema.applyAll editor.supply edits = (.ok (outcomes, last.schema), last.supply) ∧
      last.indent = editor.indent ∧ last.Printed := by
  induction edits generalizing editor outcomes with
  | nil =>
      cases done
      exact ⟨rfl, rfl, printed⟩
  | cons edit rest ih =>
      rcases first : editor.apply edit with ⟨failed | outcome, after⟩
      · rw [applyEach_cons_of_error first] at done
        cases done
      · rw [applyEach_cons_of_ok first] at done
        rcases ran : after.applyEach rest with ⟨failed | others, reached⟩
        · rw [ran] at done
          cases done
        · rw [ran] at done
          cases done
          -- The edit leaves a schema with its text again, from which the rest of the run starts.
          obtain ⟨applied, advanced, sameIndent, afterPrinted⟩ := apply_eq_ok first
          obtain ⟨together, restIndent, lastPrinted⟩ := ih afterPrinted ran
          refine ⟨?_, restIndent.trans sameIndent, lastPrinted⟩
          rw [Schema.applyAll_cons_of_ok applied, ← advanced, together]
          rfl

/-- Where edits made one at a time stop, those in front of it were carried out. -/
theorem exists_stop (failed : editor.applyEach edits = (.error error, stopped)) :
    ∃ done edit later outcomes between, edits = done ++ edit :: later ∧
      editor.applyEach done = (.ok outcomes, between) ∧
      between.apply edit = (.error error, stopped) := by
  induction edits generalizing editor with
  | nil => cases failed
  | cons edit rest ih =>
      rcases first : editor.apply edit with ⟨here | outcome, after⟩
      · rw [applyEach_cons_of_error first] at failed
        cases failed
        exact ⟨[], edit, rest, [], editor, rfl, rfl, first⟩
      · rw [applyEach_cons_of_ok first] at failed
        rcases ran : after.applyEach rest with ⟨other | others, reached⟩
        · rw [ran] at failed
          cases failed
          obtain ⟨done, next, later, outcomes, between, rfl, made, fails⟩ := ih ran
          refine ⟨edit :: done, next, later, outcome :: outcomes, between, rfl, ?_, fails⟩
          rw [applyEach_cons_of_ok first, made]
          rfl
        · rw [ran] at failed
          cases failed

theorem batch_of_applyEach (printed : editor.Printed)
    (done : editor.applyEach edits = (.ok outcomes, last)) :
    editor.batch edits = (.ok outcomes,
      { last with changes := editor.changes ++ [⟨last.schema, last.sdl⟩] }) := by
  obtain ⟨together, sameIndent, lastPrinted⟩ := applyAll_of_applyEach printed done
  rw [Printed, sameIndent] at lastPrinted
  rw [batch, together]
  dsimp only
  rw [commit, lastPrinted]
  dsimp only
  rw [sameIndent]

theorem batch_of_refused {done : List Edit} {between : Editor} {refusal : SchemaError}
    (printed : editor.Printed) (made : editor.applyEach done = (.ok outcomes, between))
    (refused : between.schema.apply between.supply.fresh edit = .error refusal)
    (later : List Edit) :
    (editor.batch (done ++ edit :: later)).1 = .error (.refused refusal) := by
  obtain ⟨together, -, -⟩ := applyAll_of_applyEach printed made
  rw [batch, Schema.applyAll_append_of_refused together refused]

def Reachable (editor : Editor) : Prop :=
  ∃ (start : Editor) (calls : List Call), start.Started ∧ (start.run calls).2 = editor

theorem Reachable.printed (reachable : editor.Reachable) : editor.Printed := by
  obtain ⟨start, calls, started, rfl⟩ := reachable
  have inStep := (inStep_of_started started).run calls
  rw [Printed, inStep.indent_eq]
  exact inStep.printed

/-- In a session whose text is that of its schema, as it is in every session, edits that succeed one at a
time succeed in one batch, which gives back the same outcomes, leaves the same schema, text and supply of
ids, and announces what it leaves once.  Where the batch succeeds and the edits do not one at a time, the
first that fails is carried out but leaves a schema that cannot be printed. -/
theorem batch_agrees (printed : editor.Printed) (edits : List Edit) :
    (∀ outcomes last, editor.applyEach edits = (.ok outcomes, last) →
      editor.batch edits = (.ok outcomes,
        { last with changes := editor.changes ++ [⟨last.schema, last.sdl⟩] })) ∧
    ∀ outcomes after error stopped, editor.batch edits = (.ok outcomes, after) →
      editor.applyEach edits = (.error error, stopped) →
      ∃ done edit later earlier between outcome schema fault, edits = done ++ edit :: later ∧
        editor.applyEach done = (.ok earlier, between) ∧
        between.apply edit = (.error error, stopped) ∧
        between.schema.apply between.supply.fresh edit = .ok (outcome, schema) ∧
        schema.print between.indent = .error fault ∧ error = .unprintable fault := by
  refine ⟨fun outcomes last done => batch_of_applyEach printed done, ?_⟩
  intro outcomes after error stopped together failed
  obtain ⟨done, edit, later, earlier, between, rfl, made, fails⟩ := exists_stop failed
  refine ⟨done, edit, later, earlier, between, ?_⟩
  rcases apply_eq_error fails with
    ⟨refusal, -, refused⟩ | ⟨fault, outcome, schema, same, ran, unprintable⟩
  · have whole := batch_of_refused printed made refused later
    rw [together] at whole
    cases whole
  · exact ⟨outcome, schema, fault, rfl, made, fails, ran, unprintable, same⟩

def noteSession : Editor :=
  ((new ⟨0⟩).run [.importText "type Note".toList]).2

/-- A type is added, which then gets a field and a description. -/
def growth : List Edit :=
  [.addType .object (Name.literal "Draft"), .addField (Id.ofNat 1) Schema.defaultFieldType,
    .setDescription (.type (Id.ofNat 1)) (some "a".toList)]

def growthOutcomes : List EditOutcome :=
  [.typeAdded (Id.ofNat 1) (Name.literal "Draft"),
    .fieldAdded (Id.ofNat 2) Schema.defaultFieldType, .updated]

/-- A description that cannot be printed is written, and then one that can. -/
def detour : List Edit :=
  [.setDescription (.type (Id.ofNat 0)) (some "a\"".toList),
    .setDescription (.type (Id.ofNat 0)) (some "a".toList)]

theorem detour_agrees :
    noteSession.Printed ∧
    (noteSession.applyEach growth).1 = .ok growthOutcomes ∧
    (noteSession.batch growth).1 = .ok growthOutcomes ∧
    (noteSession.batch growth).2.schema = (noteSession.applyEach growth).2.schema ∧
    (noteSession.batch growth).2.sdl =
      "type Note \x7b\n\x7d\n\n\"a\"\ntype Draft \x7b\n  String: String\n\x7d".toList ∧
    (noteSession.batch growth).2.changes.length = 2 ∧
    (noteSession.batch detour).1 = .ok [.updated, .updated] ∧
    ∃ fault, (noteSession.applyEach detour).1 = .error (.unprintable fault) := by
  have reachable : noteSession.Reachable :=
    ⟨new ⟨0⟩, [.importText "type Note".toList], .inl ⟨⟨0⟩, 2, rfl⟩, rfl⟩
  have straight : (noteSession.applyEach growth).1 = .ok growthOutcomes := by decide +kernel
  have written : (noteSession.applyEach growth).2.sdl =
      "type Note \x7b\n\x7d\n\n\"a\"\ntype Draft \x7b\n  String: String\n\x7d".toList := by
    decide +kernel
  have announced : noteSession.changes.length = 1 := by decide +kernel
  have together : (noteSession.batch detour).1 = .ok [.updated, .updated] := by decide +kernel
  have failed : (noteSession.applyEach detour).1 =
      .error (.unprintable (.unquotableDescription (Name.literal "Note") none)) := by
    decide +kernel
  have agrees := (batch_agrees reachable.printed growth).1 _ _ (Prod.ext straight rfl)
  obtain ⟨_, _, _, _, _, _, _, fault, -, -, -, -, -, same⟩ :=
    (batch_agrees reachable.printed detour).2 _ _ _ _ (Prod.ext together rfl) (Prod.ext failed rfl)
  rw [agrees]
  refine ⟨reachable.printed, straight, rfl, rfl, written, ?_, together, fault,
    failed.trans (congrArg _ same)⟩
  rw [List.length_append, announced]
  rfl

end Editor

end SdlWorkbench
