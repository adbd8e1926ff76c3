import SdlWorkbench.Command.Editing
import SdlWorkbench.Proofs.Command.Wording
import SdlWorkbench.Proofs.Editor.Session
import SdlWorkbench.Proofs.Files.Writing
import SdlWorkbench.Proofs.Schema.RoundTrip
/-!
Carrying out a script is all or nothing.

A step succeeds when its names are found, its edit is carried out and the result can be printed.  Either
all steps of a script succeed, each on what the steps before it left, or there is a first one that fails.
In the first case the command shows or writes the last text, and in the second it changes no file and
names that step.
-/

namespace SdlWorkbench

namespace ScriptStep

/-- A step succeeds and leaves a schema that has a text. -/
def Leads (step : ScriptStep) (indent : Nat) (fresh : FreshIds) (schema after : Schema) : Prop :=
  ∃ edit outcome sdl, step.resolve schema = .ok edit ∧
    schema.apply fresh edit = .ok (outcome, after) ∧ after.print indent = .ok sdl

/-- A step fails: a name is not found or not well-formed, the edit is refused, or what it leaves cannot be
printed. -/
inductive Fails (step : ScriptStep) (indent : Nat) (fresh : FreshIds) (schema : Schema) :
    EditorError → Prop
  | unresolved {error : EditorError} : step.resolve schema = .error error →
      Fails step indent fresh schema error
  | refused {edit : Edit} {error : SchemaError} : step.resolve schema = .ok edit →
      schema.apply fresh edit = .error error → Fails step indent fresh schema (.refused error)
  | unprintable {edit : Edit} {outcome : EditOutcome} {after : Schema} {error : PrintError} :
      step.resolve schema = .ok edit → schema.apply fresh edit = .ok (outcome, after) →
      after.print indent = .error error → Fails step indent fresh schema (.unprintable error)

/-- Steps that all succeed, each on what the steps before it left.  Every step draws ids of its own. -/
inductive AllLead (indent : Nat) : IdSupply → Schema → List ScriptStep → IdSupply → Schema → Prop
  | nil (supply : IdSupply) (schema : Schema) : AllLead indent supply schema [] supply schema
  | cons {supply supply' : IdSupply} {schema between after : Schema} {step : ScriptStep}
      {rest : List ScriptStep} : step.Leads indent supply.fresh schema between →
      AllLead indent supply.advance between rest supply' after →
      AllLead indent supply schema (step :: rest) supply' after

variable {indent : Nat} {supply : IdSupply}

theorem leads_or_fails (step : ScriptStep) (indent : Nat) (fresh : FreshIds) (schema : Schema) :
    (∃ after, step.Leads indent fresh schema after) ∨
      ∃ error, step.Fails indent fresh schema error := by
  cases resolved : step.resolve schema with
  | error error => exact .inr ⟨error, .unresolved resolved⟩
  | ok edit =>
      cases applied : schema.apply fresh edit with
      | error error => exact .inr ⟨_, .refused resolved applied⟩
      | ok pair =>
          obtain ⟨outcome, after⟩ := pair
          cases printed : after.print indent with
          | error error => exact .inr ⟨_, .unprintable resolved applied printed⟩
          | ok sdl => exact .inl ⟨after, edit, outcome, sdl, resolved, applied, printed⟩

theorem allLead_or_stops (indent : Nat) (supply : IdSupply) (schema : Schema)
    (steps : List ScriptStep) :
    (∃ supply' after, AllLead indent supply schema steps supply' after) ∨
      ∃ before step later supply' between error, steps = before ++ step :: later ∧
        AllLead indent supply schema before supply' between ∧
        step.Fails indent supply'.fresh between error := by
  induction steps generalizing supply schema with
  | nil => exact .inl ⟨supply, schema, .nil supply schema⟩
  | cons step rest ih =>
      rcases step.leads_or_fails indent supply.fresh schema with ⟨between, leads⟩ | ⟨error, fails⟩
      · rcases ih supply.advance between with ⟨supply', after, others⟩ |
          ⟨before, next, later, supply', reached, error, split, others, fails⟩
        · exact .inl ⟨supply', after, .cons leads others⟩
        · refine .inr ⟨step :: before, next, later, supply', reached, error, ?_,
            .cons leads others, fails⟩
          rw [split, List.cons_append]
      · exact .inr ⟨[], step, rest, supply, schema, error, rfl, .nil supply schema, fails⟩

end ScriptStep

namespace Editor

variable {editor : Editor} {step : ScriptStep} {after : Schema} {indent count : Nat}

theorem runStep_of_leads (inStep : editor.InStep indent count)
    (leads : step.Leads indent editor.supply.fresh editor.schema after) :
    ∃ next, editor.runStep step = .ok next ∧ next.InStep indent (count + 1) ∧
      next.schema = after ∧ next.supply = editor.supply.advance := by
  obtain ⟨edit, outcome, sdl, resolved, applied, printed⟩ := leads
  rw [← inStep.indent_eq] at printed
  have called : editor.apply edit = (.ok outcome, { editor with
      schema := after, sdl := sdl, changes := editor.changes ++ [⟨after, sdl⟩],
      supply := editor.supply.advance }) := by
    rw [Editor.apply, applied]
    dsimp only
    rw [commit, printed]
  refine ⟨_, ?_, inStep.announce ⟨after, sdl, editor.supply.advance, printed, rfl⟩, rfl, rfl⟩
  rw [runStep, resolved]
  dsimp only
  rw [called]

theorem runStep_of_fails (indent_eq : editor.indent = indent) {error : EditorError}
    (fails : step.Fails indent editor.supply.fresh editor.schema error) :
    editor.runStep step = .error error := by
  rw [runStep]
  cases fails with
  | unresolved unresolved => rw [unresolved]
  | refused resolved refused =>
      rw [resolved]
      dsimp only
      rw [Editor.apply, refused]
  | unprintable resolved applied unprintable =>
      rw [resolved]
      dsimp only
      rw [Editor.apply, applied]
      dsimp only
      rw [commit, indent_eq, unprintable]

/-- A session announces one change for each step that succeeds. -/
theorem runSteps_of_allLead {schema : Schema} {supply supply' : IdSupply} {steps : List ScriptStep}
    (leads : ScriptStep.AllLead indent supply schema steps supply' after)
    (inStep : editor.InStep indent count) (isSchema : editor.schema = schema)
    (isSupply : editor.supply = supply) (number : Nat) (later : List ScriptStep) :
    ∃ last : Editor, editor.runSteps number (steps ++ later) =
        last.runSteps (number + steps.length) later ∧
      last.InStep indent (count + steps.length) ∧ last.schema = after ∧ last.supply = supply' := by
  induction leads generalizing editor count number with
  | nil supply schema => exact ⟨editor, rfl, inStep, isSchema, isSupply⟩
  | @cons supply supply' schema between after step rest first _ ih =>
      subst isSchema
      subst isSupply
      obtain ⟨next, ran, nextInStep, isBetween, isAdvanced⟩ := runStep_of_leads inStep first
      obtain ⟨last, others, lastInStep, isAfter, isLeft⟩ :=
        ih nextInStep isBetween isAdvanced (number + 1)
      have ahead : number + 1 + rest.length = number + (rest.length + 1) := by omega
      have counted : count + 1 + rest.length = count + (rest.length + 1) := by omega
      rw [ahead] at others
      rw [counted] at lastInStep
      refine ⟨last, ?_, lastInStep, isAfter, isLeft⟩
      rw [List.cons_append, runSteps, ran, List.length_cons]
      exact others

theorem runSteps_of_fails (number : Nat) (indent_eq : editor.indent = indent) {error : EditorError}
    (fails : step.Fails indent editor.supply.fresh editor.schema error) (later : List ScriptStep) :
    editor.runSteps number (step :: later) = .error (.stepFailed number step.op error) := by
  rw [runSteps, runStep_of_fails indent_eq fails]

end Editor

inductive ScriptEnd where
  | unreadable (errors : List SyntaxError)
  | unprintable (error : PrintError)
  /-- A step fails; steps are counted from one. -/
  | stopped (number : Nat) (op : Text) (error : EditorError)
  | finished (schema : Schema) (sdl : Text)

inductive ScriptEnds (indent : Nat) (supply : IdSupply) (source : Text) (steps : List ScriptStep) :
    ScriptEnd → Prop
  | unreadable {errors : List SyntaxError} : Schema.ofText supply source = .error errors →
      ScriptEnds indent supply source steps (.unreadable errors)
  | unprintable {schema : Schema} {supply' : IdSupply} {error : PrintError} :
      Schema.ofText supply source = .ok (schema, supply') → schema.print indent = .error error →
      ScriptEnds indent supply source steps (.unprintable error)
  | stopped {schema between : Schema} {before later : List ScriptStep} {step : ScriptStep}
      {supply' reached : IdSupply} {sdl : Text} {error : EditorError} :
      Schema.ofText supply source = .ok (schema, supply') → schema.print indent = .ok sdl →
      steps = before ++ step :: later →
      ScriptStep.AllLead indent supply' schema before reached between →
      step.Fails indent reached.fresh between error →
      ScriptEnds indent supply source steps (.stopped (before.length + 1) step.op error)
  | finished {schema last : Schema} {supply' reached : IdSupply} {sdl printed : Text} :
      Schema.ofText supply source = .ok (schema, supply') → schema.print indent = .ok sdl →
      ScriptStep.AllLead indent supply' schema steps reached last →
      last.print indent = .ok printed →
      ScriptEnds indent supply source steps (.finished last printed)

theorem ScriptStep.AllLead.exists_print {indent : Nat} {supply supply' : IdSupply}
    {schema after : Schema} {steps : List ScriptStep}
    (leads : AllLead indent supply schema steps supply' after) {sdl : Text}
    (printed : schema.print indent = .ok sdl) : ∃ last, after.print indent = .ok last := by
  induction leads generalizing sdl with
  | nil => exact ⟨sdl, printed⟩
  | cons first _ ih =>
      obtain ⟨_, _, next, -, -, betweenPrinted⟩ := first
      exact ih betweenPrinted

theorem exists_scriptEnds (indent : Nat) (supply : IdSupply) (source : Text)
    (steps : List ScriptStep) : ∃ ending, ScriptEnds indent supply source steps ending := by
  cases read : Schema.ofText supply source with
  | error errors => exact ⟨_, .unreadable read⟩
  | ok pair =>
      obtain ⟨schema, supply'⟩ := pair
      cases printed : schema.print indent with
      | error error => exact ⟨_, .unprintable read printed⟩
      | ok sdl =>
          rcases ScriptStep.allLead_or_stops indent supply' schema steps with
            ⟨reached, last, leads⟩ | ⟨before, step, later, reached, between, error, split, leads, fails⟩
          · obtain ⟨final, finalPrinted⟩ := leads.exists_print printed
            exact ⟨_, .finished read printed leads finalPrinted⟩
          · exact ⟨_, .stopped read printed split leads fails⟩

/-- A command fails, shows nothing and leaves the files as they were. -/
def Report.FailsWith (report : Report) (error : CommandError) (code : Nat) (store : Store) : Prop :=
  report.error = some error ∧ report.exitCode = code ∧ report.results = [] ∧ report.store = store

/-- A script of so many steps is reported as done. -/
structure Report.ShowsEdits (report : Report) (style : Style) (file : Text) (count : Nat)
    (sdl : Text) (write : Bool) (store : Store) : Prop where
  exitCode : report.exitCode = 0
  results : report.results =
    if style.format = .json then
      Data.onLines '\x7b' '\x7d' 0
        ["\"edits\": ".toList ++ (toString count).toList,
          "\"file\": ".toList ++ Data.jsonText file,
          "\"sdl\": ".toList ++ Data.jsonText sdl,
          "\"written\": ".toList ++ (toString write).toList] ++ ['\n']
    else if write then []
    else if sdl = [] then [] else sdl ++ ['\n']
  notices : report.notices =
    if style.format = .human ∧ style.quiet = false then
      "ok applied ".toList ++ (toString count).toList ++ " edits to ".toList ++ file ++ ['\n']
    else []
  shown : write = false → report.store = store
  written : write = true →
    report.store.read file = .ok (if sdl = [] then [] else sdl ++ ['\n'])
  /-- No other file is written. -/
  others : ∀ location, store.locate file ≠ .ok location →
    report.store.fileAt? location = store.fileAt? location

section Reports

variable {style : Style} {settings : Settings} {supply supply' : IdSupply}
  {file script source : Text} {write : Bool} {store : Store} {steps : List ScriptStep}
  {schema : Schema} {sdl : Text}

/-- The session after the steps that succeed, before it carries out others. -/
theorem exists_session_of_allLead (file : Text) {indent : Nat} {reached : IdSupply} {after : Schema}
    (read : Schema.ofText supply source = .ok (schema, supply'))
    (printed : schema.print indent = .ok sdl)
    (leads : ScriptStep.AllLead indent supply' schema steps reached after)
    (later : List ScriptStep) :
    ∃ editor : Editor, (openEditor supply indent file source >>= fun opened =>
        opened.runSteps 1 (steps ++ later)) = editor.runSteps (steps.length + 1) later ∧
      editor.InStep indent steps.length ∧ editor.schema = after ∧ editor.supply = reached := by
  have opened : openEditor supply indent file source =
      .ok { indent, schema, sdl, changes := [], supply := supply' } := by
    rw [openEditor, read]
    dsimp only
    rw [Editor.ofSchema, printed]
    rfl
  obtain ⟨editor, ran, inStep, isAfter, isReached⟩ := Editor.runSteps_of_allLead leads
    (Editor.inStep_of_printed printed supply') rfl rfl 1 later
  rw [Nat.zero_add] at inStep
  rw [Nat.add_comm] at ran
  exact ⟨editor, by rw [opened, ← ran]; rfl, inStep, isAfter, isReached⟩

theorem editedSession_eq (supply : IdSupply) (indent : Nat)
    (readable : store.read file = .ok source) (scripted : store.script script = .ok steps) :
    editedSession supply indent file script store =
      openEditor supply indent file source >>= fun editor => editor.runSteps 1 steps := by
  rw [editedSession, Store.source, readable, scripted]
  rfl

theorem editFile_failsWith {error : CommandError}
    (failed : editedSession supply settings.indent file script store = .error error) :
    (editFile style settings supply file script write store).FailsWith error error.exitCode store := by
  rw [editFile, failed]
  exact ⟨rfl, rfl, rfl, rfl⟩

theorem editFile_showsEdits (style : Style) (write : Bool) {editor : Editor}
    (isFile : store.isFile file = true)
    (edited : editedSession supply settings.indent file script store = .ok editor) :
    (editFile style settings supply file script write store).ShowsEdits style file
      editor.changes.length editor.sdl write store := by
  rw [editFile, edited]
  refine ⟨rfl, ?_, ?_, ?_, ?_, ?_⟩
  · change editResults style file write editor = _
    rw [editResults, Text.asFile_eq, Style.document, Data.prettyJson_record]
    cases write <;> rfl
  · change style.notice s!"ok applied {editor.changes.length} edits to {file}" ++ [] = _
    rw [List.append_nil, Style.notice_eq]
    simp [toString]
  · rintro rfl
    rfl
  · rintro rfl
    rw [← Text.asFile_eq]
    exact Store.read_write_self isFile editor.sdl.asFile
  · intro location elsewhere
    change (if write = true then store.write file editor.sdl.asFile else store).fileAt? location = _
    split
    · exact Store.fileAt?_write_of_ne elsewhere _
    · rfl

/-- Every script ends on every text, and the command reports how.  When all steps succeed it shows or
writes the last text and counts the steps, and otherwise it says why and changes no file. -/
theorem editFile_ends (style : Style) (settings : Settings) (supply : IdSupply) (write : Bool)
    (readable : store.read file = .ok source) (scripted : store.script script = .ok steps) :
    (∃ ending, ScriptEnds settings.indent supply source steps ending) ∧
    (∀ errors, ScriptEnds settings.indent supply source steps (.unreadable errors) →
      (editFile style settings supply file script write store).FailsWith
        (.unreadable file source errors) 3 store) ∧
    (∀ error, ScriptEnds settings.indent supply source steps (.unprintable error) →
      (editFile style settings supply file script write store).FailsWith
        (.unprintable file error) 1 store) ∧
    (∀ number op error, ScriptEnds settings.indent supply source steps (.stopped number op error) →
      (editFile style settings supply file script write store).FailsWith
        (.stepFailed number op error) 4 store) ∧
    ∀ last sdl, ScriptEnds settings.indent supply source steps (.finished last sdl) →
      (editFile style settings supply file script write store).ShowsEdits style file steps.length
        sdl write store := by
  have opened := editedSession_eq supply settings.indent readable scripted
  refine ⟨exists_scriptEnds _ _ _ _, ?_, ?_, ?_, ?_⟩
  · rintro errors ⟨read⟩
    refine editFile_failsWith ?_
    rw [opened, openEditor, read]
    rfl
  · intro error ends
    cases ends with
    | unprintable read unprintable =>
        refine editFile_failsWith ?_
        rw [opened, openEditor, read]
        dsimp only
        rw [Editor.ofSchema, unprintable]
        rfl
  · intro number op error ends
    cases ends with
    | stopped read printed split leads fails =>
        obtain ⟨editor, ran, inStep, isBetween, isReached⟩ :=
          exists_session_of_allLead file read printed leads _
        subst isBetween
        subst isReached
        refine editFile_failsWith ?_
        rw [opened, split, ran, Editor.runSteps_of_fails _ inStep.indent_eq fails]
  · intro last sdl ends
    cases ends with
    | finished read printed leads lastPrinted =>
        obtain ⟨editor, ran, inStep, isLast, -⟩ :=
          exists_session_of_allLead file read printed leads []
        rw [List.append_nil, Editor.runSteps] at ran
        have isText : editor.sdl = sdl :=
          Except.ok.inj (inStep.printed.symm.trans (isLast ▸ lastPrinted))
        have shown := editFile_showsEdits style write (Store.isFile_of_read readable)
          (opened.trans ran)
        rwa [inStep.counted, isText] at shown

end Reports

/-- An empty file, a script that adds a type and then deletes another, and one that adds a type and then
describes it. -/
def halfScript : Store where
  files := [(["a.graphql".toList], .text []),
    (["s.toml".toList], .text ("[[edit]]\nop = \"add_type\"\nkind = \"object\"\n" ++
      "name = \"Note\"\n[[edit]]\nop = \"delete_type\"\ntype = \"Nota\"\n").toList),
    (["t.toml".toList], .text ("[[edit]]\nop = \"add_type\"\nkind = \"object\"\n" ++
      "name = \"Note\"\n[[edit]]\nop = \"set_description\"\ntype = \"Note\"\n" ++
      "description = \"a\"\n").toList)]

def halfSteps : List ScriptStep :=
  [.addType .object "Note".toList, .deleteType "Nota".toList]

def wholeSteps : List ScriptStep :=
  [.addType .object "Note".toList, .setDescription "Note".toList none (some "a".toList)]

/-- The type that the first script adds is not written.  The second script writes it and says so. -/
theorem halfScript_ends :
    halfScript.read "a.graphql".toList = .ok [] ∧
    halfScript.script "s.toml".toList = .ok halfSteps ∧
    ScriptEnds 2 ⟨0⟩ [] halfSteps
      (.stopped 2 "delete_type".toList (.refused (.unknownType "Nota".toList))) ∧
    (editFile ⟨.human, false⟩ {} ⟨0⟩ "a.graphql".toList "s.toml".toList true halfScript).FailsWith
      (.stepFailed 2 "delete_type".toList (.refused (.unknownType "Nota".toList))) 4 halfScript ∧
    halfScript.script "t.toml".toList = .ok wholeSteps ∧
    ScriptEnds 2 ⟨0⟩ [] wholeSteps (.finished (Schema.note (some "a".toList))
      "\"a\"\ntype Note \x7b\n\x7d".toList) ∧
    (editFile ⟨.json, false⟩ {} ⟨0⟩ "a.graphql".toList "t.toml".toList true halfScript).results =
      ("\x7b\n  \"edits\": 2,\n  \"file\": \"a.graphql\",\n" ++
        "  \"sdl\": \"\\\"a\\\"\\ntype Note \x7b\\n\x7d\",\n  \"written\": true\n\x7d\n").toList ∧
    (editFile ⟨.json, false⟩ {} ⟨0⟩ "a.graphql".toList "t.toml".toList true halfScript).store.read
      "a.graphql".toList = .ok "\"a\"\ntype Note \x7b\n\x7d\n".toList := by
  have readable : halfScript.read "a.graphql".toList = .ok [] := by decide
  have half : halfScript.script "s.toml".toList = .ok halfSteps := by decide +kernel
  have whole : halfScript.script "t.toml".toList = .ok wholeSteps := by decide +kernel
  have empty : Schema.ofText ⟨0⟩ [] = .ok ({}, ⟨0⟩) := by decide +kernel
  have first : ScriptStep.Leads (.addType .object "Note".toList) 2 (IdSupply.fresh ⟨0⟩) {}
      (Schema.note none) :=
    ⟨.addType .object (Name.literal "Note"), .typeAdded (Id.ofNat 0) (Name.literal "Note"),
      "type Note \x7b\n\x7d".toList, by decide, by decide, by decide⟩
  have fails : ScriptStep.Fails (.deleteType "Nota".toList) 2 (IdSupply.advance ⟨0⟩).fresh
      (Schema.note none) (.refused (.unknownType "Nota".toList)) :=
    .unresolved (by decide)
  have printed : (Schema.note (some "a".toList)).print 2 =
      .ok "\"a\"\ntype Note \x7b\n\x7d".toList := by decide
  have second : ScriptStep.Leads (.setDescription "Note".toList none (some "a".toList)) 2
      (IdSupply.advance ⟨0⟩).fresh (Schema.note none) (Schema.note (some "a".toList)) :=
    ⟨.setDescription (.type (Id.ofNat 0)) (some "a".toList), .updated, _, by decide, by decide,
      printed⟩
  have stops : ScriptEnds 2 ⟨0⟩ [] halfSteps
      (.stopped 2 "delete_type".toList (.refused (.unknownType "Nota".toList))) :=
    .stopped empty rfl
      (rfl : halfSteps = [.addType .object "Note".toList] ++ .deleteType "Nota".toList :: [])
      (.cons first (.nil _ _)) fails
  have finishes : ScriptEnds 2 ⟨0⟩ [] wholeSteps (.finished (Schema.note (some "a".toList))
      "\"a\"\ntype Note \x7b\n\x7d".toList) :=
    .finished empty rfl (.cons first (.cons second (.nil _ _))) printed
  obtain ⟨-, -, -, stopped, -⟩ := editFile_ends ⟨.human, false⟩ {} ⟨0⟩ true readable half
  obtain ⟨-, -, -, -, finished⟩ := editFile_ends ⟨.json, false⟩ {} ⟨0⟩ true readable whole
  have shown := finished _ _ finishes
  exact ⟨readable, half, stops, stopped _ _ _ stops, whole, finishes,
    shown.results.trans (by decide), shown.written rfl⟩

end SdlWorkbench
