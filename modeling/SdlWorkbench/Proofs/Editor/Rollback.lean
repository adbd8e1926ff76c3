import SdlWorkbench.Editor
import SdlWorkbench.Proofs.Schema.InPlace
/-!
Edits that are undone.

A session may also let the edits of one call write to its schema while they run and put the schema from
before back when one of them is refused, or when the result cannot be printed.  It ends as `Editor.batch`
does, which writes nothing until all is decided.
-/

namespace SdlWorkbench

/-- Edits as one program.  Each draws ids of its own. -/
def Edit.inPlaceAll (supply : IdSupply) : List Edit → InPlace (List EditOutcome)
  | [] => return []
  | edit :: rest => do
      let outcome ← edit.inPlace supply.fresh
      return outcome :: (← inPlaceAll supply.advance rest)

namespace Schema

variable {schema between : Schema} {supply : IdSupply} {edit : Edit} {outcome : EditOutcome}

theorem applyAll_cons_of_ok (first : schema.apply supply.fresh edit = .ok (outcome, between))
    (rest : List Edit) :
    schema.applyAll supply (edit :: rest) =
      ((between.applyAll supply.advance rest).1.map fun ended => (outcome :: ended.1, ended.2),
        (between.applyAll supply.advance rest).2) := by
  rw [applyAll, first]
  dsimp only
  rcases between.applyAll supply.advance rest with ⟨result, supply'⟩
  cases result <;> rfl

theorem applyAll_cons_of_error {error : SchemaError}
    (first : schema.apply supply.fresh edit = .error error) (rest : List Edit) :
    schema.applyAll supply (edit :: rest) = (.error error, supply.advance) := by
  rw [applyAll, first]

end Schema

namespace Edit

variable {schema after : Schema} {error : SchemaError}

theorem run_inPlaceAll_cons {supply : IdSupply} {edit : Edit} {rest : List Edit}
    {outcome : EditOutcome} {between : Schema}
    (first : schema.apply supply.fresh edit = .ok (outcome, between)) :
    (inPlaceAll supply (edit :: rest)).run schema =
      match (inPlaceAll supply.advance rest).run between with
      | .ok outcomes last =>
          .ok (edit.readBack schema supply.fresh outcome :: outcomes) last
      | .error error written => .error error written := by
  rw [inPlaceAll, EStateM.run_bind, run_inPlace_of_ok first]
  dsimp only
  rw [EStateM.run_bind]
  cases (inPlaceAll supply.advance rest).run between <;> rfl

theorem run_inPlaceAll_of_ok {supply : IdSupply} {edits : List Edit} {outcomes : List EditOutcome}
    (done : (schema.applyAll supply edits).1 = .ok (outcomes, after)) :
    ∃ given, (inPlaceAll supply edits).run schema = .ok given after := by
  induction edits generalizing schema supply outcomes with
  | nil =>
      cases done
      exact ⟨[], rfl⟩
  | cons edit rest ih =>
      cases first : schema.apply supply.fresh edit with
      | error error =>
          rw [Schema.applyAll_cons_of_error first] at done
          cases done
      | ok pair =>
          rw [Schema.applyAll_cons_of_ok first] at done
          rcases others : (pair.2.applyAll supply.advance rest).1 with error | ended
          · rw [others] at done
            cases done
          · rw [others] at done
            cases done
            obtain ⟨given, ran⟩ := ih others
            exact ⟨_, by rw [run_inPlaceAll_cons first, ran]⟩

/-- The edits before the one that is refused stay written. -/
theorem run_inPlaceAll_of_error {supply : IdSupply} {edits : List Edit}
    (refused : (schema.applyAll supply edits).1 = .error error) :
    ∃ before edit later outcomes written supply', edits = before ++ edit :: later ∧
      schema.applyAll supply before = (.ok (outcomes, written), supply') ∧
      written.apply supply'.fresh edit = .error error ∧
      (inPlaceAll supply edits).run schema = .error error written := by
  induction edits generalizing schema supply with
  | nil => cases refused
  | cons edit rest ih =>
      cases first : schema.apply supply.fresh edit with
      | error other =>
          rw [Schema.applyAll_cons_of_error first] at refused
          cases refused
          refine ⟨[], edit, rest, [], schema, supply, rfl, rfl, first, ?_⟩
          rw [inPlaceAll, EStateM.run_bind, run_inPlace_eq_error_iff.mpr ⟨first, rfl⟩]
      | ok pair =>
          rw [Schema.applyAll_cons_of_ok first] at refused
          rcases others : (pair.2.applyAll supply.advance rest).1 with other | ended
          · rw [others] at refused
            cases refused
            -- The first edit is written, and the refused one is among those after it.
            obtain ⟨before, next, later, outcomes, written, supply', split, done, failed, ran⟩ :=
              ih others
            refine ⟨edit :: before, next, later, pair.1 :: outcomes, written, supply', ?_, ?_,
              failed, ?_⟩
            · rw [split, List.cons_append]
            · rw [Schema.applyAll_cons_of_ok first, done]
              rfl
            · rw [run_inPlaceAll_cons first, ran]
          · rw [others] at refused
            cases refused

end Edit

namespace Editor

variable {α : Type}

/-- Lets a program change the schema of the session, and puts the schema from before back when the
program fails or has written a schema that cannot be printed. -/
def editInPlace (program : InPlace α) : EStateM EditorError Editor α := do
  let previous := (← get).schema
  match program.run previous with
  | .error error written =>
      modify fun editor => { editor with schema := written }
      modify fun editor => { editor with schema := previous }
      throw (.refused error)
  | .ok value written =>
      modify fun editor => { editor with schema := written }
      match written.print (← get).indent with
      | .error error =>
          modify fun editor => { editor with schema := previous }
          throw (.unprintable error)
      | .ok sdl =>
          modify fun editor =>
            { editor with sdl, changes := editor.changes ++ [⟨editor.schema, sdl⟩] }
          return value

theorem run_editInPlace_of_ok {program : InPlace α} {editor : Editor} {value : α}
    {written : Schema} (ran : program.run editor.schema = .ok value written) :
    (editInPlace program).run editor =
      match written.print editor.indent with
      | .error error => .error (.unprintable error) editor
      | .ok sdl =>
          .ok value { editor with
            schema := written, sdl, changes := editor.changes ++ [⟨written, sdl⟩] } := by
  rw [editInPlace, EStateM.run_bind, EStateM.run_get]
  dsimp only
  rw [ran]
  dsimp only
  rw [EStateM.run_bind, EStateM.run_modify]
  dsimp only
  rw [EStateM.run_bind, EStateM.run_get]
  dsimp only
  cases written.print editor.indent <;> rfl

theorem run_editInPlace_of_error {program : InPlace α} {editor : Editor} {error : SchemaError}
    {written : Schema} (ran : program.run editor.schema = .error error written) :
    (editInPlace program).run editor = .error (.refused error) editor := by
  rw [editInPlace, EStateM.run_bind, EStateM.run_get]
  dsimp only
  rw [ran]
  rfl

/-- A batch that fails, run in place, ends with the session that it began with. -/
theorem run_editInPlace_of_batch_error {editor : Editor} {edits : List Edit} {error : EditorError}
    (failed : (editor.batch edits).1 = .error error) :
    (editInPlace (Edit.inPlaceAll editor.supply edits)).run editor = .error error editor := by
  rw [batch] at failed
  rcases same : editor.schema.applyAll editor.supply edits with ⟨refused | ⟨_, schema⟩, supply'⟩
  · rw [same] at failed
    cases failed
    obtain ⟨_, _, _, _, written, _, -, -, -, ran⟩ :=
      Edit.run_inPlaceAll_of_error (congrArg Prod.fst same)
    exact run_editInPlace_of_error ran
  · obtain ⟨given, ran⟩ := Edit.run_inPlaceAll_of_ok (congrArg Prod.fst same)
    rw [same] at failed
    rw [run_editInPlace_of_ok ran]
    dsimp only [commit] at failed
    cases printed : schema.print editor.indent with
    | error unprintable =>
        rw [printed] at failed
        cases failed
        rfl
    | ok sdl =>
        rw [printed] at failed
        cases failed

theorem run_editInPlace_of_batch_ok {editor : Editor} {edits : List Edit}
    {outcomes : List EditOutcome} (done : (editor.batch edits).1 = .ok outcomes) :
    ∃ given, (editInPlace (Edit.inPlaceAll editor.supply edits)).run editor =
      .ok given { (editor.batch edits).2 with supply := editor.supply } := by
  rw [batch] at done ⊢
  rcases same : editor.schema.applyAll editor.supply edits with ⟨refused | ⟨_, schema⟩, supply'⟩
  · rw [same] at done
    cases done
  · obtain ⟨given, ran⟩ := Edit.run_inPlaceAll_of_ok (congrArg Prod.fst same)
    refine ⟨given, ?_⟩
    rw [same] at done
    rw [run_editInPlace_of_ok ran]
    dsimp only [commit] at done ⊢
    cases printed : schema.print editor.indent with
    | error unprintable =>
        rw [printed] at done
        cases done
    | ok sdl => rfl

end Editor

end SdlWorkbench
