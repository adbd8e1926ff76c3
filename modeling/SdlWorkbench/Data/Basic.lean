import SdlWorkbench.Schema.Error
/-!
Structured data: the values that a JSON or TOML document denotes.

Readers ask a `Record` for its members one by one.  A record may also be given as the list of its
members in their fixed order, where members at the end that have a default may be left out.
-/

namespace SdlWorkbench

inductive Data where
  | null
  | boolean (value : Bool)
  | integer (value : Int)
  /-- A scalar that no reader here interprets, such as a fraction, as it is written. -/
  | literal (spelling : Text)
  | text (value : Text)
  | list (items : List Data)
  | record (members : List (Text × Data))
deriving Inhabited

/-- The members of a record, or of the part of a record that a reader looks at. -/
structure Record where
  members : List (Text × Data)

namespace Data

/-- A record whose members are put into key order. -/
def sortedRecord (members : List (Text × Data)) : Data :=
  .record (members.mergeSort fun left right => !decide (right.1 < left.1))

def text? : Data → Option Text
  | text value => some value
  | _ => none

def boolean? : Data → Option Bool
  | boolean value => some value
  | _ => none

def list? : Data → Option (List Data)
  | list items => some items
  | _ => none

def name? (data : Data) : Option Name :=
  data.text?.bind Name.ofText?

def id? (kind : IdKind) (data : Data) : Option (Id kind) :=
  data.text?.bind (Id.ofText? kind)

def record? (required defaulted : List Text) : Data → Option Record
  | record members => some ⟨members⟩
  | list items =>
      if required.length ≤ items.length ∧ items.length ≤ required.length + defaulted.length then
        some ⟨(required ++ defaulted).zip items⟩
      else none
  | _ => none

/-- A value that says in its member `key` of what kind it is, without that member.  `tag?` reads that
member. -/
def tagged? {α : Type} (key : Text) (tag? : Data → Option α) : Data → Option (α × Data)
  | record members =>
      ((members.lookup key).bind tag?).map fun tag => (tag, .record members)
  | list (first :: items) => (tag? first).map fun tag => (tag, .list items)
  | _ => none

end Data

namespace Record

def get? (record : Record) (key : Text) : Option Data :=
  record.members.lookup key

def text? (record : Record) (key : Text) : Option Text :=
  (record.get? key).bind Data.text?

def name? (record : Record) (key : Text) : Option Name :=
  (record.get? key).bind Data.name?

def id? (record : Record) (kind : IdKind) (key : Text) : Option (Id kind) :=
  (record.get? key).bind (Data.id? kind)

def boolean? (record : Record) (key : Text) : Option Bool :=
  (record.get? key).bind Data.boolean?

/-- What `read` makes of a member, or `default` when the member is missing. -/
def getOr? {α : Type} (record : Record) (key : Text) (default : α) (read : Data → Option α) :
    Option α :=
  match record.get? key with
  | none => some default
  | some data => read data

/-- What `read` makes of a member, or nothing when the member is missing or null. -/
def optional? {α : Type} (record : Record) (key : Text) (read : Data → Option α) :
    Option (Option α) :=
  match record.get? key with
  | none => some none
  | some .null => some none
  | some data => (read data).map some

end Record

end SdlWorkbench
