import SdlWorkbench.Proofs.Schema.RoundTrip
import SdlWorkbench.Proofs.Text.BlockValue
import SdlWorkbench.Proofs.Token.Classified
/-!
Values of block strings as descriptions.

The value of a block string is in the form that printing and reading keep.  As the description of any
type or field, printed at any indentation, it is read again as it is.
-/

namespace SdlWorkbench

/-- A part of a document that may have a description: a declaration, or a field of one, by position. -/
inductive Document.Part where
  | type (index : Nat)
  | field (index position : Nat)

def Body.undescribeField (position : Nat) : Body Field → Body Field
  | .object fields => .object (fields.modify position fun field => { field with description := none })
  | .enumeration values => .enumeration values

namespace Document

def undescribe (document : Document) : Part → Document
  | .type index => document.modify index fun declaration => { declaration with description := none }
  | .field index position => document.modify index fun declaration =>
      { declaration with body := declaration.body.undescribeField position }

def descriptionAt? (document : Document) : Part → Option (Option Text)
  | .type index => document[index]?.map Declaration.description
  | .field index position => document[index]?.bind fun declaration =>
      declaration.body.fields[position]?.map Field.description

theorem descriptionAt?_mapDescriptions (f : Text → Text) (document : Document) (part : Part) :
    (document.mapDescriptions f).descriptionAt? part =
      (document.descriptionAt? part).map (Option.map f) := by
  cases part with
  | type index =>
      simp only [descriptionAt?, mapDescriptions, List.getElem?_map, Option.map_map]
      rfl
  | field index position =>
      simp only [descriptionAt?, mapDescriptions, List.getElem?_map]
      cases document[index]? with
      | none => rfl
      | some declaration =>
          have fields : (declaration.mapDescriptions f).body.fields =
              declaration.body.fields.map (Field.mapDescription f) := by
            simp only [Declaration.mapDescriptions]
            cases declaration.body <;> rfl
          simp only [Option.map_some, Option.bind_some, fields, List.getElem?_map, Option.map_map]
          rfl

end Document

theorem Body.fields_undescribeField (position : Nat) (body : Body Field) :
    (body.undescribeField position).fields =
      body.fields.modify position fun field => { field with description := none } := by
  cases body with
  | object fields => rfl
  | enumeration values => cases position <;> rfl

/-- What holds of all items after one was changed held before, if the change has not brought it about. -/
theorem forall_mem_of_modify {α : Type} {holds : α → Prop} {items : List α} {index : Nat} {f : α → α}
    (changed : ∀ item ∈ items.modify index f, holds item)
    (back : ∀ item, items[index]? = some item → holds (f item) → holds item) :
    ∀ item ∈ items, holds item := by
  intro item member
  obtain ⟨place, found⟩ := List.mem_iff_getElem?.mp member
  have after : (items.modify index f)[place]? = some (if index = place then f item else item) := by
    rw [List.getElem?_modify, found]
    split <;> rfl
  have holdsAfter := changed _ (List.mem_of_getElem? after)
  split at holdsAfter
  · next here => exact back item (here ▸ found) holdsAfter
  · exact holdsAfter

namespace Document

/-- A document is without fault when it is so without one description and this one can be written. -/
theorem fault?_eq_none_of_undescribe {document : Document} {part : Part}
    (othersSound : (document.undescribe part).fault? = none)
    (describable : ∀ text, document.descriptionAt? part = some (some text) →
      text.isDescribable = true) : document.fault? = none := by
  rw [fault?_eq_none_iff] at othersSound ⊢
  cases part with
  | type index =>
      refine forall_mem_of_modify othersSound fun declaration found sound => ?_
      obtain ⟨-, directivesSound, fieldsSound⟩ := (Declaration.fault?_eq_none_iff _).mp sound
      refine (Declaration.fault?_eq_none_iff _).mpr ⟨fun text described => ?_, directivesSound,
        fieldsSound⟩
      exact describable text (by rw [descriptionAt?, found, Option.map_some, described])
  | field index position =>
      refine forall_mem_of_modify othersSound fun declaration found sound => ?_
      obtain ⟨ownSound, directivesSound, fieldsSound⟩ := (Declaration.fault?_eq_none_iff _).mp sound
      refine (Declaration.fault?_eq_none_iff _).mpr ⟨ownSound, directivesSound, ?_⟩
      rw [Body.fields_undescribeField] at fieldsSound
      refine forall_mem_of_modify fieldsSound fun field fieldFound sound => ?_
      refine (Field.fault?_eq_none_iff _ _).mpr ⟨fun text described => ?_,
        ((Field.fault?_eq_none_iff _ _).mp sound).2⟩
      exact describable text (by
        rw [descriptionAt?, found, Option.bind_some, fieldFound, Option.map_some, described])

/-- A description that settles to itself is printed wherever it stands, and read again as it is. -/
theorem ofText_print_of_settled {document : Document} {part : Part} {text : Text}
    (othersSound : (document.undescribe part).fault? = none)
    (described : document.descriptionAt? part = some (some text))
    (describable : text.isDescribable = true) (settles : text.settled = text) (width : Nat) :
    document.print width = .ok (document.render width) ∧
      Document.ofText (document.render width) = .ok (document.mapDescriptions Text.settled) ∧
      (document.mapDescriptions Text.settled).descriptionAt? part = some (some text) := by
  have sound : document.fault? = none := by
    refine fault?_eq_none_of_undescribe othersSound fun other same => ?_
    rw [described] at same
    cases same
    exact describable
  refine ⟨(print_eq_ok_iff width document _).mpr ⟨sound, rfl⟩, ofText_render width sound, ?_⟩
  rw [descriptionAt?_mapDescriptions, described, Option.map_some, Option.map_some, settles]

end Document

namespace SourceItem

/-- The value of a block string without carriage returns is canonical.  It is empty or its first and last
lines are not blank.  Its visible lines are those inside the quotes: the first as it is, and the later
ones without the indentation that these have in common.  If it may be written as a description, then as
the description of any type or field it is printed at every width and read again as it is. -/
theorem blockString_canonical {source : Text} {item : SourceItem} (member : item ∈ scan source)
    (isBlock : item.kind = some .blockString) (noReturn : '\r' ∉ item.text) :
    ∃ inside value first rest margin, item.text = (Lexeme.block inside).text ∧
      Lexeme.description? ⟨.blockString, item.text⟩ = some value ∧
      (value = [] ∨ Text.VisibleEnds (value.splitOn '\n')) ∧
      inside.splitOn '\n' = first :: rest ∧ Text.IsCommonIndentation margin rest ∧
      Text.visibleLines (value.splitOn '\n') =
        Text.visibleLines [first] ++ (Text.visibleLines rest).map (List.drop margin) ∧
      (value.isDescribable = true → ∀ (schema : Schema) (part : Document.Part) (width : Nat)
        (supply : IdSupply), (schema.document.undescribe part).fault? = none →
        schema.document.descriptionAt? part = some (some value) →
        ∃ text reread supply', schema.print width = .ok text ∧
          Schema.ofText supply text = .ok (reread, supply') ∧
          reread.document.descriptionAt? part = some (some value)) := by
  obtain ⟨inside, -, same⟩ := (inClass member isBlock).eq_block rfl
  have itemText : item.text = (Lexeme.block inside).text := congrArg Lexeme.text same
  have insideNoReturn : '\r' ∉ inside := by
    rw [itemText] at noReturn
    exact fun returns => noReturn (List.mem_append_left _ (List.mem_append_right _ returns))
  obtain ⟨first, rest, pieces⟩ := List.exists_cons_of_ne_nil (List.splitOn_ne_nil '\n' inside)
  refine ⟨inside, Text.blockValue inside, first, rest, Text.commonIndentation rest, itemText, ?_, ?_,
    pieces, Text.commonIndentation_isCommon rest,
    Text.visibleLines_blockValue insideNoReturn pieces, ?_⟩
  · rw [same, Lexeme.block_description?]
  · rcases Text.splitOn_blockValue insideNoReturn pieces with ⟨empty, -⟩ | ⟨-, ends⟩
    · exact .inl empty
    · exact .inr ends
  · intro describable schema part width supply othersSound described
    obtain ⟨printed, read, kept⟩ := Document.ofText_print_of_settled othersSound described
      describable (Text.settled_blockValue insideNoReturn) width
    obtain ⟨reread, supply', reading, documentEq⟩ := Schema.ofText_of_document read supply
    exact ⟨_, reread, supply', printed, reading, documentEq ▸ kept⟩

/-- A block string with its first line beside the quotes and a blank line inside. -/
def unevenBlock : SourceItem :=
  ⟨some .blockString, "\"\"\"One\n    two\n\n      three\n  \"\"\"".toList, ⟨0, 33⟩⟩

theorem unevenBlock_canonical :
    unevenBlock ∈ scan unevenBlock.text ∧ unevenBlock.kind = some .blockString ∧
    '\r' ∉ unevenBlock.text ∧
    ∃ inside value first rest margin, unevenBlock.text = (Lexeme.block inside).text ∧
      Lexeme.description? ⟨.blockString, unevenBlock.text⟩ = some value ∧
      (value = [] ∨ Text.VisibleEnds (value.splitOn '\n')) ∧
      inside.splitOn '\n' = first :: rest ∧ Text.IsCommonIndentation margin rest ∧
      Text.visibleLines (value.splitOn '\n') =
        Text.visibleLines [first] ++ (Text.visibleLines rest).map (List.drop margin) ∧
      (value.isDescribable = true → ∀ (schema : Schema) (part : Document.Part) (width : Nat)
        (supply : IdSupply), (schema.document.undescribe part).fault? = none →
        schema.document.descriptionAt? part = some (some value) →
        ∃ text reread supply', schema.print width = .ok text ∧
          Schema.ofText supply text = .ok (reread, supply') ∧
          reread.document.descriptionAt? part = some (some value)) := by
  have items : scan unevenBlock.text = [unevenBlock] := by decide +kernel
  have member : unevenBlock ∈ scan unevenBlock.text := items ▸ List.mem_cons_self
  have noReturn : '\r' ∉ unevenBlock.text := by decide
  exact ⟨member, rfl, noReturn, blockString_canonical member rfl noReturn⟩

example : Lexeme.description? ⟨.blockString, unevenBlock.text⟩ =
    some "One\ntwo\n\n  three".toList := by
  decide +kernel

end SourceItem

end SdlWorkbench
