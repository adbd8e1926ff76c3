import SdlWorkbench.Command.Formatting
import SdlWorkbench.Proofs.Schema.RoundTrip
/-!
Formatting twice.

A formatted text always reads back.  It is its own canonical form exactly when the descriptions of the
document reprint alike; every other description of several lines is changed once more by the next run.
-/

namespace SdlWorkbench

theorem Text.asFile_injective {left right : Text} (same : asFile left = asFile right) :
    left = right := by
  cases left with
  | nil =>
      cases right with
      | nil => rfl
      | cons c rest => simp [asFile, asLine] at same
  | cons c rest =>
      cases right with
      | nil => simp [asFile, asLine] at same
      | cons d more => simpa [asFile, asLine] using same

namespace Document

theorem ofText_asFile (width : Nat) {document : Document} (sound : document.fault? = none) :
    Document.ofText (Text.asFile (document.render width)) =
      .ok (document.mapDescriptions Text.settled) := by
  rw [Text.asFile]
  split
  · next empty =>
      have read := ofText_render width sound
      rwa [List.isEmpty_iff.mp empty] at read
  · exact ofText_render_newline width sound

end Document

namespace Verdict

theorem ofText_asFile_iff (width : Nat) {document : Document} (sound : document.fault? = none) :
    Verdict.ofText width (Text.asFile (document.render width)) = .ok .canonical ↔
      document.ReprintsAlike := by
  rw [← Document.print_settled_iff sound width, Verdict.ofText, Document.ofText_asFile width sound]
  dsimp only
  cases (document.mapDescriptions Text.settled).print width with
  | error error => simp
  | ok printed =>
      simp only [Except.ok.injEq]
      constructor
      · intro judged
        by_contra different
        rw [if_neg fun same => different (Text.asFile_injective same)] at judged
        cases judged
      · intro same
        rw [same, if_pos rfl]

theorem rewritten_eq {source rewritten printed : Text} {document : Document} {width : Nat}
    (read : Document.ofText source = .ok document) (formatted : document.print width = .ok printed)
    (judged : Verdict.ofText width source = .ok (.different rewritten)) :
    rewritten = Text.asFile printed := by
  rw [Verdict.ofText, read] at judged
  simp only [formatted, Except.ok.injEq] at judged
  split at judged
  · cases judged
  · exact (Verdict.different.inj judged).symm

end Verdict

namespace Schema

/-- Formatting a text once more.  The printed text always reads back, and it is printed again as it is
exactly when the document of the source reprints alike.  The same holds of a file that formatting has
rewritten: it is judged canonical exactly then. -/
theorem reprint_iff {source printed : Text} {schema : Schema} {width : Nat}
    {supply supply' : IdSupply} (read : ofText supply source = .ok (schema, supply'))
    (formatted : schema.print width = .ok printed) (again : IdSupply) :
    (∃ reread again', ofText again printed = .ok (reread, again') ∧
      (reread.print width = .ok printed ↔ schema.document.ReprintsAlike)) ∧
    ∀ rewritten, Verdict.ofText width source = .ok (.different rewritten) →
      (Verdict.ofText width rewritten = .ok .canonical ↔ schema.document.ReprintsAlike) := by
  obtain ⟨sound, rendered⟩ := (Document.print_eq_ok_iff width schema.document printed).mp formatted
  constructor
  · obtain ⟨reread, again', rereads, documentEq⟩ := ofText_of_print formatted again
    refine ⟨reread, again', rereads, ?_⟩
    rw [print, documentEq, ← rendered]
    exact Document.print_settled_iff sound width
  · intro rewritten judged
    have verdict := Verdict.rewritten_eq (document_of_ofText read) formatted judged
    rw [verdict, ← rendered]
    exact Verdict.ofText_asFile_iff width sound

/-- Two flush lines in a string literal become a block string that stays as it is. -/
theorem escaped_newline_reprints :
    (∃ reread again', ofText ⟨1⟩ "\"\"\"\na\nb\n\"\"\"\ntype Note \x7b\n\x7d".toList =
        .ok (reread, again') ∧
      (reread.print 2 = .ok "\"\"\"\na\nb\n\"\"\"\ntype Note \x7b\n\x7d".toList ↔
        (note (some "a\nb".toList)).document.ReprintsAlike)) ∧
    ∀ rewritten, Verdict.ofText 2 "\"a\\nb\" type Note".toList = .ok (.different rewritten) →
      (Verdict.ofText 2 rewritten = .ok .canonical ↔
        (note (some "a\nb".toList)).document.ReprintsAlike) :=
  reprint_iff (by decide +kernel : ofText ⟨0⟩ "\"a\\nb\" type Note".toList = .ok (_, ⟨1⟩))
    (by decide) ⟨1⟩

/-- A line feed at the end of a description is lost on the way, and the second text has the description
on one line. -/
theorem trailing_newline_reprints_otherwise :
    ofText ⟨0⟩ "\"a\\n\" type Note".toList = .ok (note (some "a\n".toList), ⟨1⟩) ∧
    (note (some "a\n".toList)).print 2 =
      .ok "\"\"\"\na\n\"\"\"\ntype Note \x7b\n\x7d".toList ∧
    ofText ⟨0⟩ "\"\"\"\na\n\"\"\"\ntype Note \x7b\n\x7d".toList =
      .ok (note (some "a".toList), ⟨1⟩) ∧
    (note (some "a".toList)).print 2 = .ok "\"a\"\ntype Note \x7b\n\x7d".toList ∧
    Verdict.ofText 2 "\"\"\"\na\n\"\"\"\ntype Note \x7b\n\x7d\n".toList =
      .ok (.different "\"a\"\ntype Note \x7b\n\x7d\n".toList) :=
  ⟨by decide +kernel, by decide, by decide +kernel, by decide, by decide +kernel⟩

end Schema

end SdlWorkbench
