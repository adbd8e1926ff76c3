import SdlWorkbench.Proofs.Id
import SdlWorkbench.Data.Basic
/-!
Reading structured data.

A name or an id is read from the text that it has, and from no other value.  What a reader asks a
record for is a part of the value that the record was given as.
-/

namespace SdlWorkbench

theorem mapM_eq_some_iff {α β : Type} {read : α → Option β} {items : List α} {values : List β} :
    items.mapM read = some values ↔ items.map read = values.map some := by
  induction items generalizing values with
  | nil =>
      cases values with
      | nil => simp
      | cons value others => simp
  | cons first rest ih =>
      cases values with
      | nil => simp [List.mapM_cons, Option.bind_eq_some_iff]
      | cons value others => simp [List.mapM_cons, Option.bind_eq_some_iff, ← ih]

theorem mapM_map_eq_some {α β : Type} {read : β → Option α} {write : α → β}
    (reads : ∀ value, read (write value) = some value) (values : List α) :
    (values.map write).mapM read = some values := by
  rw [mapM_eq_some_iff, List.map_map]
  exact List.map_congr_left fun value _ => reads value

theorem exists_of_mem_mapM {α β : Type} {read : α → Option β} {items : List α} {values : List β}
    (allRead : items.mapM read = some values) {value : β} (member : value ∈ values) :
    ∃ item ∈ items, read item = some value := by
  have among : some value ∈ values.map some := List.mem_map_of_mem member
  rw [← mapM_eq_some_iff.mp allRead] at among
  exact List.mem_map.mp among

namespace Data

theorem text?_eq_some_iff {data : Data} {value : Text} :
    data.text? = some value ↔ data = .text value := by
  cases data <;> simp [text?]

theorem list?_eq_some_iff {data : Data} {items : List Data} :
    data.list? = some items ↔ data = .list items := by
  cases data <;> simp [list?]

theorem name?_eq_some_iff {data : Data} {name : Name} :
    data.name? = some name ↔ data = .text name.text := by
  rw [name?, Option.bind_eq_some_iff]
  constructor
  · rintro ⟨value, isText, read⟩
    rw [Name.ofText?_eq_some_iff.mp read]
    exact text?_eq_some_iff.mp isText
  · rintro rfl
    exact ⟨name.text, rfl, name.ofText?_text⟩

theorem id?_eq_some_iff {kind : IdKind} {data : Data} {id : Id kind} :
    data.id? kind = some id ↔ data = .text id.text := by
  rw [id?, Option.bind_eq_some_iff]
  constructor
  · rintro ⟨value, isText, read⟩
    rw [Id.ofText?_eq_some_iff.mp read]
    exact text?_eq_some_iff.mp isText
  · rintro rfl
    exact ⟨id.text, rfl, id.ofText?_text⟩

/-- A value, the items of its lists and the members of its records, at every depth. -/
inductive HasPart : Data → Data → Prop where
  | self (data : Data) : HasPart data data
  | item {items : List Data} {item part : Data} (member : item ∈ items)
      (inside : HasPart item part) : HasPart (.list items) part
  | member {members : List (Text × Data)} {key : Text} {value part : Data}
      (member : (key, value) ∈ members) (inside : HasPart value part) :
      HasPart (.record members) part

theorem HasPart.trans {whole part inner : Data} (outer : whole.HasPart part)
    (deeper : part.HasPart inner) : whole.HasPart inner := by
  induction outer with
  | self => exact deeper
  | item member _ ih => exact .item member (ih deeper)
  | member member _ ih => exact .member member (ih deeper)

/-- What a record leads to is a part of the value, whether that is a record or lists the members. -/
theorem hasPart_of_get? {data part : Data} {required defaulted : List Text} {record : Record}
    {key : Text} (given : data.record? required defaulted = some record)
    (found : record.get? key = some part) : data.HasPart part := by
  obtain ⟨before, after, parts, -⟩ := List.lookup_eq_some_iff.mp found
  have member : (key, part) ∈ record.members := by
    rw [parts]
    exact List.mem_append_right before List.mem_cons_self
  cases data with
  | record members =>
      cases given
      exact .member member (.self part)
  | list items =>
      rw [record?] at given
      split at given
      · cases given
        exact .item (List.of_mem_zip member).2 (.self part)
      · cases given
  | null | boolean _ | integer _ | literal _ | text _ => cases given

/-- No record in the value has a key twice. -/
inductive KeysDistinct : Data → Prop where
  | text (value : Text) : KeysDistinct (.text value)
  | boolean (value : Bool) : KeysDistinct (.boolean value)
  | list {items : List Data} (within : ∀ item ∈ items, KeysDistinct item) :
      KeysDistinct (.list items)
  | record {members : List (Text × Data)} (distinct : (members.map Prod.fst).Nodup)
      (within : ∀ member ∈ members, KeysDistinct member.2) : KeysDistinct (.record members)

end Data

end SdlWorkbench
