import SdlWorkbench.Proofs.Data.Reading
import SdlWorkbench.Proofs.Directive.Arguments
import SdlWorkbench.Proofs.Schema.Ownership
import SdlWorkbench.Schema.Form
/-!
The structured form of schemas loses nothing.

Each reader is described by the members that it asks for.  What is left out when it is empty has just
that as its default, so reading the form of a schema gives the schema back, ids included.  The names
and ids of whatever is read stand in the data as texts.
-/

namespace SdlWorkbench

def listMember? (items : List Data) : Option Data :=
  if items.isEmpty then none else some (.list items)

theorem optionalList_eq (key : String) (items : List Data) :
    optionalList key items = optionalMember key (listMember? items) := by
  cases items <;> rfl

theorem lookup_optionalMember (key : String) (value : Option Data) (wanted : Text) :
    (optionalMember key value).lookup wanted = if wanted = key.toList then value else none := by
  cases value with
  | none => simp [optionalMember]
  | some value =>
      by_cases same : wanted = key.toList
      · rw [optionalMember, if_pos same, same, List.lookup_cons_self]
      · rw [optionalMember, if_neg same, List.lookup_cons, beq_false_of_ne same, List.lookup_nil]

theorem keys_optionalMember (key : String) (value : Option Data) :
    ((optionalMember key value).map Prod.fst).Sublist [key.toList] := by
  cases value with
  | none => exact List.nil_sublist _
  | some value => exact List.Sublist.refl _

theorem keysDistinct_optionalMember {key : String} {value : Option Data}
    (within : ∀ data ∈ value, data.KeysDistinct) :
    ∀ member ∈ optionalMember key value, member.2.KeysDistinct := by
  cases value with
  | none =>
      intro member impossible
      cases impossible
  | some value =>
      intro member isIt
      rw [List.mem_singleton.mp isIt]
      exact within value rfl

theorem keysDistinct_listMember {α : Type} {write : α → Data} {values : List α}
    (within : ∀ value, (write value).KeysDistinct) :
    ∀ data ∈ listMember? (values.map write), data.KeysDistinct := by
  intro data written
  rw [listMember?] at written
  split at written
  · cases written
  · cases written
    exact .list (List.forall_mem_map.mpr fun value _ => within value)

theorem keysDistinct_description (description : Option Text) :
    ∀ data ∈ description.map Data.text, data.KeysDistinct := by
  intro data written
  obtain ⟨text, -, rfl⟩ := Option.map_eq_some_iff.mp written
  exact .text text

namespace Record

variable {record : Record} {key : Text} {α : Type}

theorem name?_eq_some_iff {name : Name} :
    record.name? key = some name ↔ record.get? key = some (.text name.text) := by
  rw [name?, Option.bind_eq_some_iff]
  exact ⟨fun ⟨_, found, read⟩ => Data.name?_eq_some_iff.mp read ▸ found,
    fun found => ⟨_, found, Data.name?_eq_some_iff.mpr rfl⟩⟩

theorem id?_eq_some_iff {kind : IdKind} {id : Id kind} :
    record.id? kind key = some id ↔ record.get? key = some (.text id.text) := by
  rw [id?, Option.bind_eq_some_iff]
  exact ⟨fun ⟨_, found, read⟩ => Data.id?_eq_some_iff.mp read ▸ found,
    fun found => ⟨_, found, Data.id?_eq_some_iff.mpr rfl⟩⟩

/-- A list that was written is read, and so is one that was left out because it is empty. -/
theorem getOr?_of_listMember {write : α → Data} {read : Data → Option α}
    {readList : Data → Option (List α)}
    (readsList : ∀ items, readList (.list items) = items.mapM read)
    (reads : ∀ value, read (write value) = some value) {values : List α}
    (written : record.get? key = listMember? (values.map write)) :
    record.getOr? key [] readList = some values := by
  rw [getOr?, written]
  cases values with
  | nil => rfl
  | cons first rest => exact (readsList _).trans (mapM_map_eq_some reads (first :: rest))

theorem descriptionOfData?_of_get? {description : Option Text}
    (written : record.get? "description".toList = description.map Data.text) :
    descriptionOfData? record = some description := by
  rw [descriptionOfData?, optional?, written]
  cases description <;> rfl

end Record

namespace Arguments

theorem ofData?_toData (arguments : Arguments) : ofData? arguments.toData = some arguments := by
  have entries : (arguments.entries.map fun entry => (entry.1, Data.text entry.2)).mapM
      (fun member => member.2.text?.map fun value => (member.1, value)) =
        some arguments.entries := by
    refine mapM_map_eq_some (fun entry => ?_) _
    rfl
  rw [toData, ofData?, entries, Option.map_some, ofList, foldl_insert_entries]

theorem keysDistinct_toData (arguments : Arguments) : arguments.toData.KeysDistinct := by
  refine .record ?_ ?_
  · rw [List.map_map]
    refine List.pairwise_map.mpr (arguments.ascending.imp ?_)
    intro left right below same
    have same : left.1 = right.1 := same
    rw [same] at below
    exact List.lt_irrefl _ below
  · rw [List.forall_mem_map]
    exact fun entry _ => .text entry.2

end Arguments

namespace Directive

theorem ofData?_eq_some_iff {data : Data} {directive : Directive} :
    ofData? data = some directive ↔
      ∃ record, data.record? ["name".toList] ["arguments".toList] = some record ∧
        record.get? "name".toList = some (.text directive.name.text) ∧
        record.getOr? "arguments".toList Arguments.empty Arguments.ofData? =
          some directive.arguments := by
  simp only [ofData?, Option.bind_eq_bind, Option.bind_eq_some_iff, Record.name?_eq_some_iff,
    Option.pure_def, Option.some.injEq]
  constructor
  · rintro ⟨record, given, name, named, arguments, bound, rfl⟩
    exact ⟨record, given, named, bound⟩
  · rintro ⟨record, given, named, bound⟩
    exact ⟨record, given, _, named, _, bound, rfl⟩

def argumentsMember? (directive : Directive) : Option Data :=
  if directive.arguments.entries.isEmpty then none else some directive.arguments.toData

theorem toData_eq (directive : Directive) : directive.toData =
    .record (("name".toList, .text directive.name.text) ::
      optionalMember "arguments" directive.argumentsMember?) := by
  rw [toData, argumentsMember?]
  split <;> rfl

theorem ofData?_toData (directive : Directive) : ofData? directive.toData = some directive := by
  rw [toData_eq, ofData?_eq_some_iff]
  refine ⟨⟨_⟩, rfl, List.lookup_cons_self, ?_⟩
  have written : Record.get? ⟨("name".toList, .text directive.name.text) ::
      optionalMember "arguments" directive.argumentsMember?⟩ "arguments".toList =
        directive.argumentsMember? := by
    simp [Record.get?, List.lookup_cons, lookup_optionalMember]
  rw [Record.getOr?, written, argumentsMember?]
  split
  · next none =>
      split at none
      · next noEntries =>
          exact congrArg some (Arguments.ext_entries (List.isEmpty_iff.mp noEntries).symm)
      · cases none
  · next data some =>
      split at some
      · cases some
      · cases some
        exact directive.arguments.ofData?_toData

theorem keysDistinct_toData (directive : Directive) : directive.toData.KeysDistinct := by
  have keys : ["name".toList, "arguments".toList].Nodup := by decide
  rw [toData_eq]
  refine .record (keys.sublist ((keys_optionalMember _ _).cons_cons _)) ?_
  refine List.forall_mem_cons.mpr ⟨.text _, keysDistinct_optionalMember fun data written => ?_⟩
  rw [argumentsMember?] at written
  split at written
  · cases written
  · cases written
    exact directive.arguments.keysDistinct_toData

end Directive

namespace FieldDecl

theorem ofData?_eq_some_iff {data : Data} {field : FieldDecl} :
    ofData? data = some field ↔
      ∃ record, data.record? ["id".toList, "name".toList, "type_name".toList]
          ["is_list".toList, "is_required".toList, "description".toList, "directives".toList] =
            some record ∧
        record.get? "id".toList = some (.text field.id.text) ∧
        record.get? "name".toList = some (.text field.name.text) ∧
        record.get? "type_name".toList = some (.text field.typeName.text) ∧
        record.getOr? "is_list".toList false Data.boolean? = some field.isList ∧
        record.getOr? "is_required".toList false Data.boolean? = some field.isRequired ∧
        descriptionOfData? record = some field.description ∧
        record.getOr? "directives".toList [] Directive.listOfData? = some field.directives := by
  simp only [ofData?, Option.bind_eq_bind, Option.bind_eq_some_iff, Record.name?_eq_some_iff,
    Record.id?_eq_some_iff, Option.pure_def, Option.some.injEq]
  constructor
  · rintro ⟨record, given, id, identified, name, named, typeName, typed, isList, listed, isRequired,
      required, description, described, directives, annotated, rfl⟩
    exact ⟨record, given, identified, named, typed, listed, required, described, annotated⟩
  · rintro ⟨record, given, identified, named, typed, listed, required, described, annotated⟩
    exact ⟨record, given, _, identified, _, named, _, typed, _, listed, _, required, _, described, _,
      annotated, rfl⟩

theorem ofData?_toData (field : FieldDecl) : ofData? field.toData = some field := by
  rw [toData, ofData?_eq_some_iff, optionalList_eq]
  refine ⟨⟨_⟩, rfl, ?_, ?_, ?_, ?_, ?_, ?_, ?_⟩
  · rfl
  · rfl
  · rfl
  · rfl
  · rfl
  · refine Record.descriptionOfData?_of_get? ?_
    simp [Record.get?, List.lookup_cons, List.lookup_append, lookup_optionalMember]
  · refine Record.getOr?_of_listMember (fun _ => rfl) Directive.ofData?_toData ?_
    simp [Record.get?, List.lookup_cons, List.lookup_append, lookup_optionalMember]

theorem keysDistinct_toData (field : FieldDecl) : field.toData.KeysDistinct := by
  have keys : ["id".toList, "name".toList, "type_name".toList, "is_list".toList,
      "is_required".toList, "description".toList, "directives".toList].Nodup := by decide
  rw [toData, optionalList_eq]
  refine .record (keys.sublist ?_) ?_
  · rw [List.map_append, List.map_append]
    exact ((List.Sublist.refl _).append (keys_optionalMember _ _)).append (keys_optionalMember _ _)
  · rw [List.forall_mem_append, List.forall_mem_append]
    refine ⟨⟨?_, keysDistinct_optionalMember (keysDistinct_description _)⟩,
      keysDistinct_optionalMember (keysDistinct_listMember Directive.keysDistinct_toData)⟩
    simp only [List.forall_mem_cons]
    exact ⟨.text _, .text _, .text _, .boolean _, .boolean _, List.forall_mem_nil _⟩

end FieldDecl

/-! ### Types -/

namespace TypeKind

theorem ofFormName?_formName (kind : TypeKind) : ofFormName? kind.formName = some kind := by
  cases kind <;> decide

end TypeKind

namespace Body

def Lists (items : List Data) : Body FieldDecl → Prop
  | object fields => items.mapM FieldDecl.ofData? = some fields
  | enumeration values => items.mapM Data.name? = some values

theorem ofData?_eq_some_iff {data : Data} {body : Body FieldDecl} :
    ofData? data = some body ↔
      ∃ record items, data.record? ["kind".toList, "members".toList] [] = some record ∧
        kindOfData? data = some body.kind ∧
        record.get? "members".toList = some (.list items) ∧ body.Lists items := by
  simp only [ofData?, Option.bind_eq_bind, Option.bind_eq_some_iff, Data.list?_eq_some_iff]
  constructor
  · rintro ⟨record, given, kind, kindRead, items, ⟨_, found, rfl⟩, read⟩
    cases kind with
    | object =>
        obtain ⟨fields, listed, same⟩ := Option.bind_eq_some_iff.mp read
        cases same
        exact ⟨record, items, given, kindRead, found, listed⟩
    | enumeration =>
        obtain ⟨values, listed, same⟩ := Option.bind_eq_some_iff.mp read
        cases same
        exact ⟨record, items, given, kindRead, found, listed⟩
  · rintro ⟨record, items, given, kindRead, found, listed⟩
    refine ⟨record, given, _, kindRead, items, ⟨_, found, rfl⟩, ?_⟩
    cases body with
    | object fields => exact Option.bind_eq_some_iff.mpr ⟨fields, listed, rfl⟩
    | enumeration values => exact Option.bind_eq_some_iff.mpr ⟨values, listed, rfl⟩

def items : Body FieldDecl → List Data
  | object fields => fields.map FieldDecl.toData
  | enumeration values => values.map fun value => .text value.text

theorem toData_eq (body : Body FieldDecl) : body.toData =
    .record [("kind".toList, .text body.kind.formName), ("members".toList, .list body.items)] := by
  cases body <;> rfl

theorem ofData?_toData (body : Body FieldDecl) : ofData? body.toData = some body := by
  rw [toData_eq, ofData?_eq_some_iff]
  refine ⟨⟨_⟩, body.items, rfl, body.kind.ofFormName?_formName, rfl, ?_⟩
  cases body with
  | object fields => exact mapM_map_eq_some FieldDecl.ofData?_toData fields
  | enumeration values =>
      exact mapM_map_eq_some (fun _ => Data.name?_eq_some_iff.mpr rfl) values

theorem keysDistinct_toData (body : Body FieldDecl) : body.toData.KeysDistinct := by
  have keys : ["kind".toList, "members".toList].Nodup := by decide
  rw [toData_eq]
  refine .record keys (List.forall_mem_cons.mpr ⟨.text _, List.forall_mem_singleton.mpr (.list ?_)⟩)
  cases body with
  | object fields => exact List.forall_mem_map.mpr fun field _ => field.keysDistinct_toData
  | enumeration values => exact List.forall_mem_map.mpr fun value _ => .text value.text

end Body

namespace TypeDecl

theorem ofData?_eq_some_iff {data : Data} {decl : TypeDecl} :
    ofData? data = some decl ↔
      ∃ record body, data.record? ["id".toList, "name".toList, "description".toList,
          "directives".toList, "body".toList] [] = some record ∧
        record.get? "id".toList = some (.text decl.id.text) ∧
        record.get? "name".toList = some (.text decl.name.text) ∧
        descriptionOfData? record = some decl.description ∧
        record.getOr? "directives".toList [] Directive.listOfData? = some decl.directives ∧
        record.get? "body".toList = some body ∧ Body.ofData? body = some decl.body := by
  simp only [ofData?, Option.bind_eq_bind, Option.bind_eq_some_iff, Record.name?_eq_some_iff,
    Record.id?_eq_some_iff, Option.pure_def, Option.some.injEq]
  constructor
  · rintro ⟨record, given, id, identified, name, named, description, described, directives, annotated,
      body, ⟨data, found, read⟩, rfl⟩
    exact ⟨record, data, given, identified, named, described, annotated, found, read⟩
  · rintro ⟨record, data, given, identified, named, described, annotated, found, read⟩
    exact ⟨record, given, _, identified, _, named, _, described, _, annotated, _, ⟨data, found, read⟩,
      rfl⟩

theorem ofData?_toData (decl : TypeDecl) : ofData? decl.toData = some decl := by
  rw [toData, ofData?_eq_some_iff, optionalList_eq]
  refine ⟨⟨_⟩, decl.body.toData, rfl, ?_, ?_, ?_, ?_, ?_, decl.body.ofData?_toData⟩
  · rfl
  · rfl
  · refine Record.descriptionOfData?_of_get? ?_
    simp [Record.get?, List.lookup_cons, List.lookup_append, lookup_optionalMember]
  · refine Record.getOr?_of_listMember (fun _ => rfl) Directive.ofData?_toData ?_
    simp [Record.get?, List.lookup_cons, List.lookup_append, lookup_optionalMember]
  · simp [Record.get?, List.lookup_cons, List.lookup_append, lookup_optionalMember]

theorem keysDistinct_toData (decl : TypeDecl) : decl.toData.KeysDistinct := by
  have keys : ["id".toList, "name".toList, "description".toList, "directives".toList,
      "body".toList].Nodup := by decide
  rw [toData, optionalList_eq]
  refine .record (keys.sublist ?_) ?_
  · rw [List.map_append, List.map_append, List.map_append]
    exact (((List.Sublist.refl _).append (keys_optionalMember _ _)).append
      (keys_optionalMember _ _)).append (List.Sublist.refl _)
  · rw [List.forall_mem_append, List.forall_mem_append, List.forall_mem_append]
    refine ⟨⟨⟨?_, keysDistinct_optionalMember (keysDistinct_description _)⟩,
      keysDistinct_optionalMember (keysDistinct_listMember Directive.keysDistinct_toData)⟩,
      List.forall_mem_singleton.mpr decl.body.keysDistinct_toData⟩
    simp only [List.forall_mem_cons]
    exact ⟨.text _, .text _, List.forall_mem_nil _⟩

end TypeDecl

namespace Schema

theorem ofData?_eq_some_iff {data : Data} {schema : Schema} :
    ofData? data = some schema ↔
      ∃ record items, data.record? ["types".toList] [] = some record ∧
        record.get? "types".toList = some (.list items) ∧
        items.mapM TypeDecl.ofData? = some schema.types := by
  simp only [ofData?, Option.bind_eq_bind, Option.bind_eq_some_iff, Data.list?_eq_some_iff,
    Option.pure_def, Option.some.injEq]
  constructor
  · rintro ⟨record, given, items, ⟨_, found, rfl⟩, types, read, rfl⟩
    exact ⟨record, items, given, found, read⟩
  · rintro ⟨record, items, given, found, read⟩
    exact ⟨record, given, items, ⟨_, found, rfl⟩, _, read, rfl⟩

theorem ofData?_toData (schema : Schema) : ofData? schema.toData = some schema := by
  rw [toData, ofData?_eq_some_iff]
  exact ⟨⟨_⟩, _, rfl, rfl, mapM_map_eq_some TypeDecl.ofData?_toData schema.types⟩

theorem keysDistinct_toData (schema : Schema) : schema.toData.KeysDistinct := by
  refine .record (List.pairwise_singleton _ _) (List.forall_mem_singleton.mpr (.list ?_))
  exact List.forall_mem_map.mpr fun decl _ => decl.keysDistinct_toData

end Schema

/-- The names that a field carries: its own, that of its type and those of its directives. -/
def FieldDecl.names (field : FieldDecl) : List Name :=
  field.name :: field.typeName :: field.directives.map Directive.name

def TypeDecl.names (decl : TypeDecl) : List Name :=
  decl.name :: decl.directives.map Directive.name ++ decl.values ++
    decl.fields.flatMap FieldDecl.names

def Schema.names (schema : Schema) : List Name :=
  schema.types.flatMap TypeDecl.names

namespace Record

variable {data : Data} {required defaulted : List Text} {record : Record}

theorem exists_item_of_get? {α : Type} {key : Text} {read : Data → Option α} {items : List Data}
    (given : data.record? required defaulted = some record)
    (found : record.get? key = some (.list items)) {values : List α}
    (listed : items.mapM read = some values) {value : α} (member : value ∈ values) :
    ∃ item, data.HasPart item ∧ read item = some value := by
  obtain ⟨item, itemMember, itemRead⟩ := exists_of_mem_mapM listed member
  have inside : data.HasPart item :=
    (Data.hasPart_of_get? given found).trans (.item itemMember (.self item))
  exact ⟨item, inside, itemRead⟩

theorem exists_item_of_getOr? {α : Type} {key : Text} {read : Data → Option α}
    {readList : Data → Option (List α)} (given : data.record? required defaulted = some record)
    (readsList : ∀ part, readList part = part.list?.bind fun items => items.mapM read)
    {values : List α} (listed : record.getOr? key [] readList = some values) {value : α}
    (member : value ∈ values) : ∃ item, data.HasPart item ∧ read item = some value := by
  rw [getOr?] at listed
  cases found : record.get? key with
  | none =>
      rw [found] at listed
      cases listed
      cases member
  | some part =>
      rw [found] at listed
      dsimp only at listed
      rw [readsList, Option.bind_eq_some_iff] at listed
      obtain ⟨items, isList, allRead⟩ := listed
      rw [Data.list?_eq_some_iff.mp isList] at found
      exact exists_item_of_get? given found allRead member

end Record

theorem Directive.hasPart_name {data : Data} {directive : Directive}
    (read : ofData? data = some directive) : data.HasPart (.text directive.name.text) := by
  obtain ⟨record, given, named, -⟩ := ofData?_eq_some_iff.mp read
  exact Data.hasPart_of_get? given named

theorem Directive.hasPart_names {data : Data} {required defaulted : List Text} {record : Record}
    {directives : List Directive} (given : data.record? required defaulted = some record)
    (annotated : record.getOr? "directives".toList [] listOfData? = some directives) :
    ∀ name ∈ directives.map Directive.name, data.HasPart (.text name.text) := by
  rw [List.forall_mem_map]
  intro directive member
  obtain ⟨item, inside, read⟩ := Record.exists_item_of_getOr? given (fun _ => rfl) annotated member
  exact inside.trans (hasPart_name read)

theorem FieldDecl.hasPart_id {data : Data} {field : FieldDecl} (read : ofData? data = some field) :
    data.HasPart (.text field.id.text) := by
  obtain ⟨record, given, identified, -⟩ := ofData?_eq_some_iff.mp read
  exact Data.hasPart_of_get? given identified

theorem FieldDecl.hasPart_names {data : Data} {field : FieldDecl}
    (read : ofData? data = some field) : ∀ name ∈ field.names, data.HasPart (.text name.text) := by
  obtain ⟨record, given, -, named, typed, -, -, -, annotated⟩ := ofData?_eq_some_iff.mp read
  rw [names, List.forall_mem_cons, List.forall_mem_cons]
  exact ⟨Data.hasPart_of_get? given named, Data.hasPart_of_get? given typed,
    Directive.hasPart_names given annotated⟩

namespace Body

variable {data : Data} {body : Body FieldDecl}

theorem exists_item_of_mem_fields (read : ofData? data = some body) {field : FieldDecl}
    (member : field ∈ body.fields) :
    ∃ item, data.HasPart item ∧ FieldDecl.ofData? item = some field := by
  obtain ⟨record, items, given, -, found, listed⟩ := ofData?_eq_some_iff.mp read
  cases body with
  | object fields => exact Record.exists_item_of_get? given found listed member
  | enumeration values => cases member

theorem hasPart_values (read : ofData? data = some body) :
    ∀ value ∈ body.values, data.HasPart (.text value.text) := by
  obtain ⟨record, items, given, -, found, listed⟩ := ofData?_eq_some_iff.mp read
  intro value member
  cases body with
  | object fields => cases member
  | enumeration values =>
      obtain ⟨item, inside, itemRead⟩ := Record.exists_item_of_get? given found listed member
      exact Data.name?_eq_some_iff.mp itemRead ▸ inside

end Body

namespace TypeDecl

variable {data : Data} {decl : TypeDecl}

theorem hasPart_id (read : ofData? data = some decl) : data.HasPart (.text decl.id.text) := by
  obtain ⟨record, body, given, identified, -⟩ := ofData?_eq_some_iff.mp read
  exact Data.hasPart_of_get? given identified

theorem exists_item_of_mem_fields (read : ofData? data = some decl) {field : FieldDecl}
    (member : field ∈ decl.fields) :
    ∃ item, data.HasPart item ∧ FieldDecl.ofData? item = some field := by
  obtain ⟨record, body, given, -, -, -, -, found, bodyRead⟩ := ofData?_eq_some_iff.mp read
  obtain ⟨item, inside, itemRead⟩ := Body.exists_item_of_mem_fields bodyRead member
  exact ⟨item, (Data.hasPart_of_get? given found).trans inside, itemRead⟩

theorem hasPart_names (read : ofData? data = some decl) :
    ∀ name ∈ decl.names, data.HasPart (.text name.text) := by
  obtain ⟨record, body, given, -, named, -, annotated, found, bodyRead⟩ :=
    ofData?_eq_some_iff.mp read
  rw [names, List.forall_mem_append, List.forall_mem_append, List.forall_mem_cons]
  refine ⟨⟨⟨Data.hasPart_of_get? given named, Directive.hasPart_names given annotated⟩, ?_⟩, ?_⟩
  · intro value member
    exact (Data.hasPart_of_get? given found).trans (Body.hasPart_values bodyRead value member)
  · intro name member
    obtain ⟨field, fieldMember, carried⟩ := List.mem_flatMap.mp member
    obtain ⟨item, inside, fieldRead⟩ := exists_item_of_mem_fields read fieldMember
    exact inside.trans (FieldDecl.hasPart_names fieldRead name carried)

end TypeDecl

namespace Schema

variable {data : Data} {schema : Schema}

theorem exists_item_of_mem_types (read : ofData? data = some schema) {decl : TypeDecl}
    (member : decl ∈ schema.types) :
    ∃ item, data.HasPart item ∧ TypeDecl.ofData? item = some decl := by
  obtain ⟨record, items, given, found, listed⟩ := ofData?_eq_some_iff.mp read
  exact Record.exists_item_of_get? given found listed member

theorem hasPart_names (read : ofData? data = some schema) :
    ∀ name ∈ schema.names, data.HasPart (.text name.text) := by
  intro name member
  obtain ⟨decl, declMember, carried⟩ := List.mem_flatMap.mp member
  obtain ⟨item, inside, declRead⟩ := exists_item_of_mem_types read declMember
  exact inside.trans (TypeDecl.hasPart_names declRead name carried)

theorem hasPart_typeIds (read : ofData? data = some schema) :
    ∀ id ∈ schema.typeIds, data.HasPart (.text id.text) := by
  rw [typeIds, List.forall_mem_map]
  intro decl member
  obtain ⟨item, inside, declRead⟩ := exists_item_of_mem_types read member
  exact inside.trans (TypeDecl.hasPart_id declRead)

theorem hasPart_fieldIds (read : ofData? data = some schema) :
    ∀ owned ∈ schema.ownedFields, data.HasPart (.text owned.2.id.text) := by
  intro owned member
  obtain ⟨decl, declMember, ownedMember⟩ := List.mem_flatMap.mp member
  obtain ⟨field, fieldMember, rfl⟩ := List.mem_map.mp ownedMember
  obtain ⟨item, inside, declRead⟩ := exists_item_of_mem_types read declMember
  obtain ⟨fieldItem, insideDecl, fieldRead⟩ :=
    TypeDecl.exists_item_of_mem_fields declRead fieldMember
  exact (inside.trans insideDecl).trans (FieldDecl.hasPart_id fieldRead)

/-- The structured form of every schema has different keys and is read as that schema, ids included.
Whatever is read, its names are identifiers and its ids have the label of their kind, all of them stand
in the data as texts, and its own form is read as the same schema again. -/
theorem form_lossless :
    (∀ schema : Schema, schema.toData.KeysDistinct ∧ ofData? schema.toData = some schema) ∧
    ∀ (data : Data) (schema : Schema), ofData? data = some schema →
      (∀ name ∈ schema.names,
        isIdentifier name.text = true ∧ data.HasPart (.text name.text)) ∧
      (∀ id ∈ schema.typeIds, "type_".toList <+: id.text ∧ data.HasPart (.text id.text)) ∧
      (∀ owned ∈ schema.ownedFields,
        "field_".toList <+: owned.2.id.text ∧ data.HasPart (.text owned.2.id.text)) ∧
      ofData? schema.toData = some schema := by
  refine ⟨fun schema => ⟨schema.keysDistinct_toData, schema.ofData?_toData⟩, ?_⟩
  intro data schema read
  refine ⟨?_, ?_, ?_, schema.ofData?_toData⟩
  · intro name member
    exact ⟨name.isIdentifier_text, hasPart_names read name member⟩
  · intro id member
    exact ⟨id.prefix_text, hasPart_typeIds read id member⟩
  · intro owned member
    exact ⟨owned.2.id.prefix_text, hasPart_fieldIds read owned member⟩

/-- The form of `lamps` as no writer gives it: with a member that nothing reads, a description that is
null, an empty list of directives, a record for the kind and a list for the field. -/
def looseForm : Data :=
  .record [("version".toList, .integer 1), ("types".toList, .list [.record [
    ("body".toList, .record [
      ("members".toList, .list [.list [.text "field_00000000000000000000000001".toList,
        .text "watt".toList, .text "Watt".toList, .boolean true]]),
      ("kind".toList, .record [("object".toList, .null)])]),
    ("directives".toList, .list []), ("description".toList, .null),
    ("name".toList, .text "Lamp".toList),
    ("id".toList, .text "type_00000000000000000000000000".toList)]])]

def lamps : Schema :=
  let watt : FieldDecl :=
    { id := Id.ofNat 1, name := Name.literal "watt", typeName := Name.literal "Watt", isList := true }
  ⟨[{ id := Id.ofNat 0, name := Name.literal "Lamp", body := .object [watt] }]⟩

theorem looseForm_lossless :
    ofData? looseForm = some lamps ∧
    (∀ name ∈ lamps.names, isIdentifier name.text = true ∧ looseForm.HasPart (.text name.text)) ∧
    (∀ id ∈ lamps.typeIds, "type_".toList <+: id.text ∧ looseForm.HasPart (.text id.text)) ∧
    (∀ owned ∈ lamps.ownedFields,
      "field_".toList <+: owned.2.id.text ∧ looseForm.HasPart (.text owned.2.id.text)) ∧
    ofData? lamps.toData = some lamps :=
  have read : ofData? looseForm = some lamps := by decide +kernel
  ⟨read, form_lossless.2 looseForm lamps read⟩

end Schema

end SdlWorkbench
