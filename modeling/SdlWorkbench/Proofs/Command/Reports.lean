import SdlWorkbench.Proofs.Command.Wording
/-!
What a run over files reports.

The report is made from the entries of the files that the run has handled: which of them have another
form, which have syntax errors, and how many there are of each.  `Formatting.Shows` spells it out for
every output format.
-/

namespace SdlWorkbench

namespace Formatting

/-- The files that have another form than the canonical one, in order. -/
def changedFiles : List JudgedFile → List Text
  | [] => []
  | ⟨file, _, .different _⟩ :: rest => file :: changedFiles rest
  | ⟨_, _, .canonical⟩ :: rest | ⟨_, _, .invalid _⟩ :: rest => changedFiles rest

def syntaxErrors : List JudgedFile → List (Text × SyntaxError)
  | [] => []
  | ⟨file, _, .invalid errors⟩ :: rest => errors.map (file, ·) ++ syntaxErrors rest
  | ⟨_, _, .canonical⟩ :: rest | ⟨_, _, .different _⟩ :: rest => syntaxErrors rest

def failures : List JudgedFile → Nat
  | [] => 0
  | ⟨_, _, .invalid _⟩ :: rest => failures rest + 1
  | ⟨_, _, .canonical⟩ :: rest | ⟨_, _, .different _⟩ :: rest => failures rest

/-- What a run says about one file: its syntax errors, or in a line for human readers that it is to be
changed. -/
def fileLines (style : Style) (check : Bool) : JudgedFile → Text
  | ⟨file, source, .invalid errors⟩ =>
      match style.format with
      | .human => errors.flatMap fun error => ((Diagnostic.ofError source error).render file).toList
      | .json => []
      | .plain => errors.flatMap fun error =>
          file ++ "\terror\t".toList ++ error.message.toList ++ ['\n']
  | ⟨_, _, .canonical⟩ => []
  | ⟨file, _, .different _⟩ =>
      if style.format = .human ∧ style.quiet = false then
        (if check then "  would reformat ".toList else "  reformatted ".toList) ++ file ++ ['\n']
      else []

def countLine (style : Style) (check : Bool) (handled : List JudgedFile) : Text :=
  if style.format = .human ∧ style.quiet = false then
    "ok ".toList ++ (toString (changedFiles handled).length).toList ++ " of ".toList ++
      (toString handled.length).toList ++ " files ".toList ++
        (if check then "would be reformatted".toList else "reformatted".toList) ++ ['\n']
  else []

def failureLine (format : OutputFormat) (message : Text) : Text :=
  match format with
  | .human => "error: ".toList ++ message ++ ['\n']
  | .json => "\x7b\"error\":\"error\",\"message\":".toList ++ Data.jsonText message ++ "\x7d\n".toList
  | .plain => "error\t".toList ++ message ++ ['\n']

/-- The results of a run that goes through all files.  The changed files are listed one on each line, or
in a document that also has the syntax errors and the counts. -/
def results (format : OutputFormat) (check : Bool) (handled : List JudgedFile) : Text :=
  match format with
  | .human => []
  | .json =>
      Data.onLines '\x7b' '\x7d' 0
        ["\"changed\": ".toList ++
            Data.onLines '[' ']' 1 ((changedFiles handled).map Data.jsonText),
          "\"check\": ".toList ++ (toString check).toList,
          "\"errors\": ".toList ++ Data.onLines '[' ']' 1 ((syntaxErrors handled).map fun failed =>
            Data.onLines '\x7b' '\x7d' 2 ["\"file\": ".toList ++ Data.jsonText failed.1,
              "\"message\": ".toList ++ Data.jsonText failed.2.message.toList]),
          "\"failed\": ".toList ++ (toString (failures handled)).toList,
          "\"files\": ".toList ++ (toString handled.length).toList] ++ ['\n']
  | .plain => (changedFiles handled).flatMap fun file => file ++ ['\n']

def failure? (check : Bool) (handled : List JudgedFile) (halted : Option CommandError) :
    Option CommandError :=
  if halted.isSome then halted
  else if failures handled ≠ 0 then some (.invalidFiles (failures handled))
  else if check = true ∧ changedFiles handled ≠ [] then
    some (.unformatted (changedFiles handled).length)
  else none

/-- What is said last.  A failure that counts files has a line of its own in every format. -/
def closing (style : Style) : Option CommandError → Text
  | none => []
  | some (.invalidFiles count) =>
      failureLine style.format ((toString count).toList ++ " file(s) failed to parse".toList)
  | some (.unformatted count) =>
      failureLine style.format ((toString count).toList ++ " file(s) would be reformatted".toList)
  | some error => style.failure error

/-- The report of a run that has handled the given files.  Results and counts are shown only when no
obstacle stops the run. -/
structure Shows (report : Report) (style : Style) (check : Bool) (handled : List JudgedFile)
    (halted : Option CommandError) : Prop where
  error : report.error = failure? check handled halted
  results : report.results = if halted.isSome then [] else results style.format check handled
  notices : report.notices = handled.flatMap (fileLines style check) ++
    (if halted.isSome then [] else countLine style check handled) ++
      closing style (failure? check handled halted)

theorem files_filter_isDifferent (handled : List JudgedFile) :
    (handled.filter fun entry => entry.verdict.isDifferent).map JudgedFile.file =
      changedFiles handled := by
  induction handled with
  | nil => rfl
  | cons entry rest ih =>
      obtain ⟨file, source, verdict⟩ := entry
      cases verdict with
      | different formatted => exact congrArg (file :: ·) ih
      | invalid _ | canonical => exact ih

theorem length_filter_isInvalid (handled : List JudgedFile) :
    (handled.filter fun entry => entry.verdict.isInvalid).length = failures handled := by
  induction handled with
  | nil => rfl
  | cons entry rest ih =>
      obtain ⟨file, source, verdict⟩ := entry
      cases verdict with
      | invalid errors => exact congrArg (· + 1) ih
      | canonical | different _ => exact ih

theorem flatMap_errors (handled : List JudgedFile) :
    (handled.flatMap fun entry => entry.verdict.errors.map (SyntaxError.toData entry.file)) =
      (syntaxErrors handled).map fun failed => failed.2.toData failed.1 := by
  induction handled with
  | nil => rfl
  | cons entry rest ih =>
      obtain ⟨file, source, verdict⟩ := entry
      cases verdict with
      | invalid errors =>
          rw [List.flatMap_cons, ih, syntaxErrors, List.map_append, List.map_map]
          rfl
      | canonical | different _ => exact ih

theorem fileNotice_eq (style : Style) (check : Bool) (entry : JudgedFile) :
    fileNotice style check entry = fileLines style check entry := by
  obtain ⟨file, source, verdict⟩ := entry
  cases verdict with
  | canonical => rfl
  | invalid errors =>
      simp only [fileNotice, fileLines, Style.syntaxErrors]
      cases style.format with
      | human | json => rfl
      | plain => simp [toString]
  | different formatted =>
      simp only [fileNotice, fileLines, Style.notice_eq]
      cases check <;> simp [toString]

theorem notice_summary (style : Style) (check : Bool) (formatting : Formatting) :
    style.notice (formatting.summary check) = countLine style check formatting.judged := by
  rw [Style.notice_eq, summary, changed, files_filter_isDifferent, countLine]
  cases check <;> simp [toString]

theorem compactJson_error (message : String) :
    (Data.record [("error".toList, CommandError.textData "error"),
      ("message".toList, CommandError.textData message)]).compactJson =
        "\x7b\"error\":\"error\",\"message\":".toList ++ Data.jsonText message.toList ++ ['\x7d'] := by
  have error : Data.jsonText "error".toList = "\"error\"".toList := by decide
  have key : Data.jsonText "message".toList = "\"message\"".toList := by decide
  simp only [Data.compactJson, Data.compactMembers, CommandError.textData, Data.jsonScalar, error, key]
  simp

theorem failure_of_count (style : Style) {error : CommandError} {count : Nat}
    (counts : error = .invalidFiles count ∨ error = .unformatted count) :
    style.failure error = failureLine style.format error.message.toList := by
  obtain ⟨format, quiet⟩ := style
  cases format with
  | human =>
      have line : Style.failure ⟨.human, quiet⟩ error =
          Text.asLine (s!"error: {error.message}").toList := by
        rcases counts with rfl | rfl <;> rfl
      rw [line, Text.asLine]
      unfold failureLine
      simp [toString]
  | json =>
      have line : Style.failure ⟨.json, quiet⟩ error = Text.asLine (Data.compactJson
          (.record [("error".toList, CommandError.textData "error"),
            ("message".toList, CommandError.textData error.message)])) := by
        rcases counts with rfl | rfl <;> rfl
      rw [line, Text.asLine, compactJson_error]
      unfold failureLine
      simp
  | plain =>
      have line : Style.failure ⟨.plain, quiet⟩ error =
          Text.asLine (s!"error\t{error.message}").toList := by
        rcases counts with rfl | rfl <;> rfl
      rw [line, Text.asLine]
      unfold failureLine
      simp [toString]

/-- The obstacle is the only failure that is not told from a count. -/
theorem closing_eq (style : Style) (failure : Option CommandError) :
    closing style failure = (failure.map style.failure).getD [] := by
  cases failure with
  | none => rfl
  | some error =>
      cases error
      case invalidFiles count =>
        have message : (CommandError.invalidFiles count).message.toList =
            (toString count).toList ++ " file(s) failed to parse".toList := by
          change (s!"{count} file(s) failed to parse").toList = _
          simp [toString]
        rw [closing, ← message]
        exact (failure_of_count style (.inl rfl)).symm
      case unformatted count =>
        have message : (CommandError.unformatted count).message.toList =
            (toString count).toList ++ " file(s) would be reformatted".toList := by
          change (s!"{count} file(s) would be reformatted").toList = _
          simp [toString]
        rw [closing, ← message]
        exact (failure_of_count style (.inr rfl)).symm
      all_goals rfl

theorem prettyJson_syntaxError (file : Text) (error : SyntaxError) :
    (error.toData file).prettyJson 2 = Data.onLines '\x7b' '\x7d' 2
      ["\"file\": ".toList ++ Data.jsonText file,
        "\"message\": ".toList ++ Data.jsonText error.message.toList] := by
  rw [SyntaxError.toData, Data.prettyJson_record]
  rfl

theorem totals_eq (style : Style) (check : Bool) (formatting : Formatting) :
    formatting.totals style check = results style.format check formatting.judged := by
  rw [totals, changed, failedCount, files_filter_isDifferent, length_filter_isInvalid, flatMap_errors]
  cases style.format with
  | human => rfl
  | plain => rfl
  | json =>
      have texts : ((changedFiles formatting.judged).map Data.text).map (Data.prettyJson 2) =
          (changedFiles formatting.judged).map Data.jsonText := by
        rw [List.map_map]
        rfl
      have errors : ((syntaxErrors formatting.judged).map fun failed =>
            failed.2.toData failed.1).map (Data.prettyJson 2) =
          (syntaxErrors formatting.judged).map fun failed => Data.onLines '\x7b' '\x7d' 2
            ["\"file\": ".toList ++ Data.jsonText failed.1,
              "\"message\": ".toList ++ Data.jsonText failed.2.message.toList] := by
        rw [List.map_map]
        exact List.map_congr_left fun failed _ => prettyJson_syntaxError failed.1 failed.2
      dsimp only [results]
      rw [Style.document, Data.prettyJson_record, ← texts, ← errors, ← Data.prettyJson_list,
        ← Data.prettyJson_list]
      cases check <;> rfl

theorem error?_eq (check : Bool) (formatting : Formatting) :
    formatting.error? check = failure? check formatting.judged formatting.halted := by
  rw [error?, failure?, changed, failedCount, files_filter_isDifferent, length_filter_isInvalid]
  cases formatting.halted with
  | some error => rfl
  | none => cases check <;> cases changedFiles formatting.judged <;> simp

theorem report_shows (style : Style) (check : Bool) (formatting : Formatting) :
    Shows (formatting.report style check) style check formatting.judged formatting.halted := by
  have lines : formatting.judged.flatMap (fileNotice style check) =
      formatting.judged.flatMap (fileLines style check) :=
    congrArg (List.flatMap · formatting.judged) (funext (fileNotice_eq style check))
  have fails := error?_eq check formatting
  rw [report, lines]
  cases halts : formatting.halted with
  | some error =>
      have stops : failure? check formatting.judged (some error) = some error := rfl
      refine ⟨stops.symm, rfl, ?_⟩
      rw [stops, closing_eq]
      exact congrArg (· ++ _) (List.append_nil _).symm
  | none =>
      rw [halts] at fails
      refine ⟨fails, totals_eq style check formatting, ?_⟩
      rw [← fails, closing_eq, ← notice_summary]
      rfl

theorem report_store (style : Style) (check : Bool) (formatting : Formatting) :
    (formatting.report style check).store = formatting.store := by
  rw [report]
  split <;> rfl

end Formatting

end SdlWorkbench
