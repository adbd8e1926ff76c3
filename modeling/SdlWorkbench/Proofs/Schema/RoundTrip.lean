import SdlWorkbench.Proofs.Document.Descriptions
import SdlWorkbench.Proofs.Schema.Equality
/-!
Printing a schema and reading the text again.

A text that was printed always reads back, and what is read differs in descriptions of several lines
only.  The schema is kept exactly when the lines of these stand flush, and the text is printed a second
time exactly when each of them reprints alike.
-/

namespace SdlWorkbench

namespace Schema

def note (description : Option Text) : Schema :=
  ⟨[{ name := Name.literal "Note", description := description, body := .object [],
      id := Id.ofNat 0 }]⟩

theorem ofText_of_document {text : Text} {document : Document}
    (read : Document.ofText text = .ok document) (supply : IdSupply) :
    ∃ reread supply', ofText supply text = .ok (reread, supply') ∧
      reread.document = document := by
  refine ⟨(document.identify supply).1, (document.identify supply).2, ?_,
    Document.document_identify document supply⟩
  rw [ofText, read]
  rfl

theorem document_of_ofText {text : Text} {schema : Schema} {supply supply' : IdSupply}
    (read : ofText supply text = .ok (schema, supply')) :
    Document.ofText text = .ok schema.document := by
  rw [ofText] at read
  cases documentRead : Document.ofText text with
  | error errors =>
      rw [documentRead] at read
      cases read
  | ok document =>
      rw [documentRead] at read
      have identified : document.identify supply = (schema, supply') := Except.ok.inj read
      have kept := Document.document_identify document supply
      rw [identified] at kept
      rw [kept]

/-- Printed text reads back as the document that was printed, its descriptions settled. -/
theorem ofText_of_print {schema : Schema} {width : Nat} {text : Text}
    (printed : schema.print width = .ok text) (supply : IdSupply) :
    ∃ reread supply', ofText supply text = .ok (reread, supply') ∧
      reread.document = schema.document.mapDescriptions Text.settled := by
  obtain ⟨sound, rendered⟩ := (Document.print_eq_ok_iff width schema.document text).mp printed
  have read := Document.ofText_render width sound
  rw [rendered] at read
  exact ofText_of_document read supply

/-- What is read is the schema exactly when each description of several lines stands flush. -/
theorem settled_document_eq_iff (schema : Schema) :
    schema.document = schema.document.mapDescriptions Text.settled ↔
      ∀ text ∈ schema.document.descriptions, '\n' ∈ text → Text.StandFlush (text.splitOn '\n') := by
  rw [eq_comm, Document.mapDescriptions_eq_self_iff]
  refine forall₂_congr fun text _ => ?_
  by_cases feed : '\n' ∈ text
  · rw [Text.settled_eq_self_iff feed]
    exact ⟨fun standing _ => standing, fun standing => standing feed⟩
  · exact ⟨fun _ impossible => absurd impossible feed, fun _ => Text.settled_of_not_mem feed⟩

/-- The extent of the round trip: every printed text reads back as the declarations that were printed,
in order and with all that belongs to them, and descriptions on one line are kept.  The schema that is
read is structurally equal to the printed one exactly when the descriptions of several lines stand
flush. -/
theorem print_reads_back {schema : Schema} {width : Nat} {text : Text}
    (printed : schema.print width = .ok text) (supply : IdSupply) :
    ∃ reread supply', ofText supply text = .ok (reread, supply') ∧
      reread.document = schema.document.mapDescriptions Text.settled ∧
      (∀ description : Text, '\n' ∉ description → description.settled = description) ∧
      (schema.structurallyEq reread = true ↔
        ∀ description ∈ schema.document.descriptions, '\n' ∈ description →
          Text.StandFlush (description.splitOn '\n')) := by
  obtain ⟨reread, supply', read, documentEq⟩ := ofText_of_print printed supply
  refine ⟨reread, supply', read, documentEq, fun _ => Text.settled_of_not_mem, ?_⟩
  rw [structurallyEq_iff, documentEq, settled_document_eq_iff]

def keywordField : FieldDecl :=
  { name := Name.literal "input", typeName := Name.literal "extend", isRequired := true,
    id := Id.ofNat 0 }

/-- A type, a directive, a field and its type may all be named by keywords. -/
def keywordSchema : Schema :=
  ⟨[{ name := Name.literal "type", description := some "two\nlines".toList,
      directives := [{ name := Name.literal "enum" }], body := .object [keywordField],
      id := Id.ofNat 0 }]⟩

def keywordText : Text :=
  "\"\"\"\ntwo\nlines\n\"\"\"\ntype type @enum \x7b\n  input: extend!\n\x7d".toList

theorem keywordSchema_reads_back :
    keywordSchema.print 2 = .ok keywordText ∧
    ∃ reread supply', ofText ⟨0⟩ keywordText = .ok (reread, supply') ∧
      reread.document = keywordSchema.document.mapDescriptions Text.settled ∧
      (∀ description : Text, '\n' ∉ description → description.settled = description) ∧
      (keywordSchema.structurallyEq reread = true ↔
        ∀ description ∈ keywordSchema.document.descriptions, '\n' ∈ description →
          Text.StandFlush (description.splitOn '\n')) :=
  ⟨by decide, print_reads_back (by decide : keywordSchema.print 2 = _) ⟨0⟩⟩

end Schema

/-- A description keeps its token, and may be written again, exactly when it has one line or reprints
alike. -/
theorem Text.keepsToken_settled_iff {text : Text} (describable : text.isDescribable = true) :
    KeepsToken settled text ∧ text.settled.isDescribable = true ↔
      ('\n' ∈ text → text.ReprintsAlike) := by
  by_cases feed : '\n' ∈ text
  · constructor
    · rintro ⟨keeps, settledDescribable⟩ _
      exact (ofDescription_settled_iff 0 feed describable).mp ⟨keeps 0, settledDescribable⟩
    · intro reprints
      have each := fun width =>
        (ofDescription_settled_iff width feed describable).mpr (reprints feed)
      exact ⟨fun width => (each width).1, (each 0).2⟩
  · refine ⟨fun _ impossible => absurd impossible feed, fun _ => ?_⟩
    rw [KeepsToken, settled_of_not_mem feed]
    exact ⟨fun _ => rfl, describable⟩

namespace Document

/-- Every description of several lines is written again as it was. -/
def ReprintsAlike (document : Document) : Prop :=
  ∀ text ∈ document.descriptions, '\n' ∈ text → text.ReprintsAlike

theorem isDescribable_of_fault? {document : Document} (sound : document.fault? = none) :
    ∀ text ∈ document.descriptions, text.isDescribable = true := by
  have unchanged : document.mapDescriptions id = document :=
    mapDescriptions_eq_self_iff.mpr fun _ _ => rfl
  have kept := fault?_mapDescriptions_iff (f := id) sound
  rw [unchanged] at kept
  exact kept.mp sound

/-- The same text is printed again exactly when each description of several lines reprints alike. -/
theorem print_settled_iff {document : Document} (sound : document.fault? = none) (width : Nat) :
    (document.mapDescriptions Text.settled).print width = .ok (document.render width) ↔
      document.ReprintsAlike := by
  have describable := isDescribable_of_fault? sound
  rw [print_eq_ok_iff]
  constructor
  · rintro ⟨settledSound, sameText⟩
    -- Equal texts have equal tokens, and the tokens of the two documents stand side by side.
    have tokens := Reads.document width sound []
    have settledTokens := Reads.document width settledSound []
    rw [sameText] at settledTokens
    obtain ⟨first, firstRead, firstSpells⟩ := tokens.ofText
    obtain ⟨second, secondRead, secondSpells⟩ := settledTokens.ofText
    rw [firstRead] at secondRead
    cases secondRead
    have same := sameToken_of_lexemes (secondSpells.symm.trans firstSpells)
    have settledDescribable := (fault?_mapDescriptions_iff sound).mp settledSound
    intro text member feed
    obtain ⟨indent, sameToken⟩ := same text member
    exact (Text.ofDescription_settled_iff indent feed (describable text member)).mp
      ⟨sameToken, settledDescribable text member⟩
  · intro reprints
    have each := fun text member =>
      (Text.keepsToken_settled_iff (describable text member)).mpr (reprints text member)
    exact ⟨(fault?_mapDescriptions_iff sound).mpr fun text member => (each text member).2,
      render_mapDescriptions (fun text member => (each text member).1) width⟩

end Document

end SdlWorkbench
