import SdlWorkbench.Proofs.Schema.Annotations
import SdlWorkbench.Proofs.Schema.RoundTrip
/-!
Schemas that edits build from the empty one.

A refused request leaves the schema as it is.  The descriptions that can occur in a reachable schema
are the texts that are not blank, which is not enough for the round trip: a description of several
lines also has to stand flush.
-/

namespace SdlWorkbench

namespace Schema

/-- The schema after a request that may be refused. -/
def request (schema : Schema) (fresh : FreshIds) (edit : Edit) : Schema :=
  match schema.apply fresh edit with
  | .ok (_, after) => after
  | .error _ => schema

/-- The schema is built from the empty one by requests, whatever ids they are given. -/
def Reachable (schema : Schema) : Prop :=
  ∃ requests : List (FreshIds × Edit),
    requests.foldl (fun before made => before.request made.1 made.2) {} = schema

theorem request_keeps {holds : Schema → Prop} {schema : Schema} {fresh : FreshIds} {edit : Edit}
    (before : holds schema) (step : ∀ {after : Schema} {outcome : EditOutcome},
      schema.apply fresh edit = .ok (outcome, after) → holds after) :
    holds (schema.request fresh edit) := by
  unfold request
  split
  · next done => exact step done
  · exact before

theorem Reachable.induction {holds : Schema → Prop} (empty : holds {})
    (step : ∀ {before after : Schema} {fresh : FreshIds} {edit : Edit} {outcome : EditOutcome},
      holds before → before.apply fresh edit = .ok (outcome, after) → holds after)
    {schema : Schema} (reachable : schema.Reachable) : holds schema := by
  obtain ⟨requests, rfl⟩ := reachable
  -- The induction is on the requests, over all schemas they may start from.
  suffices run : ∀ before : Schema, holds before →
      holds (requests.foldl (fun before made => before.request made.1 made.2) before) from
    run {} empty
  induction requests with
  | nil => exact fun _ start => start
  | cons made later ih =>
      intro before start
      exact ih _ (request_keeps start (step start))

theorem Reachable.annotated {holds : Option Text → List Directive → Prop}
    (invariant : AnnotationInvariant holds) {schema : Schema} (reachable : schema.Reachable) :
    schema.Annotated holds := by
  refine reachable.induction ?_ fun before done => before.apply invariant done
  intro decl impossible
  cases impossible

/-- A description that is there is not blank. -/
def Described (description : Option Text) (_ : List Directive) : Prop :=
  ∀ text ∈ description, text.isBlank = false

theorem described_invariant : AnnotationInvariant Described where
  empty := by
    intro text impossible
    cases impossible
  describe := by
    intro _ _ _ description text member
    obtain ⟨-, notBlank⟩ := Option.filter_eq_some_iff.mp member
    simpa using notBlank
  remove := fun described _ => described
  place := fun described _ _ _ => described

theorem forall_mem_descriptions_of_annotated {schema : Schema} {good : Text → Prop}
    (annotated : schema.Annotated fun description _ => ∀ text ∈ description, good text) :
    ∀ text ∈ schema.document.descriptions, good text := by
  rw [Document.forall_mem_descriptions, document, List.forall_mem_map]
  intro decl member
  obtain ⟨declGood, fieldsGood⟩ := annotated decl member
  rw [Declaration.forall_mem_descriptions]
  constructor
  · intro text described
    exact declGood text (Option.mem_toList.mp described)
  · intro field fieldMember text described
    rw [TypeDecl.fields] at fieldsGood
    rw [TypeDecl.declaration] at fieldMember
    cases bodyEq : decl.body with
    | enumeration values =>
        rw [bodyEq] at fieldMember
        cases fieldMember
    | object fields =>
        rw [bodyEq] at fieldMember fieldsGood
        obtain ⟨source, sourceMember, rfl⟩ := List.mem_map.mp fieldMember
        exact fieldsGood source sourceMember text (Option.mem_toList.mp described)

theorem Reachable.description_not_blank {schema : Schema} (reachable : schema.Reachable) :
    ∀ text ∈ schema.document.descriptions, text.isBlank = false :=
  forall_mem_descriptions_of_annotated (reachable.annotated described_invariant)

/-- Every text that is not blank is a description in a reachable schema. -/
theorem reachable_note {text : Text} (notBlank : text.isBlank = false) :
    (note (some text)).Reachable := by
  have kept : (some text).filter (fun text => !text.isBlank) = some text := by
    simp [Option.filter, notBlank]
  refine ⟨[(⟨Id.ofNat 0, Id.ofNat 0⟩, .addType .object (Name.literal "Note")),
    (⟨Id.ofNat 0, Id.ofNat 0⟩, .setDescription (.type (Id.ofNat 0)) (some text))], ?_⟩
  have added : request {} ⟨Id.ofNat 0, Id.ofNat 0⟩ (.addType .object (Name.literal "Note")) =
      note none := by
    decide
  have described : (note none).request ⟨Id.ofNat 0, Id.ofNat 0⟩
      (.setDescription (.type (Id.ofNat 0)) (some text)) = note (some text) := by
    change note ((some text).filter fun text => !text.isBlank) = note (some text)
    rw [kept]
  rw [List.foldl_cons, added, List.foldl_cons, described, List.foldl_nil]

/-- The round trip of reachable schemas.  Their descriptions are not blank, and what was printed reads
back as the schema exactly when those of several lines stand flush. -/
theorem Reachable.round_trip_iff {schema : Schema} (reachable : schema.Reachable) {width : Nat}
    {text : Text} (printed : schema.print width = .ok text) (supply : IdSupply) :
    (∀ description ∈ schema.document.descriptions, description.isBlank = false) ∧
    ∃ reread supply', ofText supply text = .ok (reread, supply') ∧
      (schema.structurallyEq reread = true ↔
        ∀ description ∈ schema.document.descriptions, '\n' ∈ description →
          Text.StandFlush (description.splitOn '\n')) := by
  obtain ⟨reread, supply', read, documentEq⟩ := ofText_of_print printed supply
  refine ⟨reachable.description_not_blank, reread, supply', read, ?_⟩
  rw [structurallyEq_iff, documentEq, settled_document_eq_iff]

/-- A description of two flush lines makes the round trip. -/
theorem flush_note_round_trip :
    (∀ description ∈ (note (some "a\nb".toList)).document.descriptions,
      description.isBlank = false) ∧
    ∃ reread supply', ofText ⟨1⟩ "\"\"\"\na\nb\n\"\"\"\ntype Note \x7b\n\x7d".toList =
        .ok (reread, supply') ∧
      ((note (some "a\nb".toList)).structurallyEq reread = true ↔
        ∀ description ∈ (note (some "a\nb".toList)).document.descriptions, '\n' ∈ description →
          Text.StandFlush (description.splitOn '\n')) :=
  Reachable.round_trip_iff (reachable_note (by decide)) (by decide : Schema.print 2 _ = _) ⟨1⟩

/-- A line feed at the end of a description is lost on the way. -/
theorem trailing_newline_lost :
    (note (some "a\n".toList)).Reachable ∧
    (note (some "a\n".toList)).print 2 =
      .ok "\"\"\"\na\n\"\"\"\ntype Note \x7b\n\x7d".toList ∧
    ofText ⟨0⟩ "\"\"\"\na\n\"\"\"\ntype Note \x7b\n\x7d".toList =
      .ok (note (some "a".toList), ⟨1⟩) ∧
    (note (some "a\n".toList)).structurallyEq (note (some "a".toList)) = false :=
  ⟨reachable_note (by decide), by decide, by decide +kernel, by decide⟩

end Schema

end SdlWorkbench
