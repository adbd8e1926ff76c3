import SdlWorkbench.Text.Basic
/-!
Identifiers of declarations and fields.

An id is a number below `2 ^ 128` together with the kind of thing it names.  Its text is the kind, an
underscore and 26 digits in base 32, as in `type_01h455vb4pex5vsknk084sn02q`; reading accepts
exactly the texts that writing produces.  New ids come from an `IdSupply`, a value that is threaded
through whatever needs them.
-/

namespace SdlWorkbench

inductive IdKind where
  | type
  | field
deriving DecidableEq

def IdKind.label : IdKind → Text
  | type => "type".toList
  | field => "field".toList

namespace Base32

/-- The digits in ascending order: the decimal digits and the small letters without i, l, o and u. -/
def alphabet : Text :=
  "0123456789abcdefghjkmnpqrstvwxyz".toList

def digit (value : Nat) : Char :=
  alphabet.getD value '0'

def value? (c : Char) : Option Nat :=
  alphabet.idxOf? c

/-- The last `count` digits of a number. -/
def encode : Nat → Nat → Text
  | 0, _ => []
  | count + 1, number => encode count (number / 32) ++ [digit (number % 32)]

def decodeFrom? (number : Nat) : Text → Option Nat
  | [] => some number
  | c :: rest =>
      match value? c with
      | none => none
      | some value => decodeFrom? (number * 32 + value) rest

def decode? (text : Text) : Option Nat :=
  decodeFrom? 0 text

theorem value?_digit {value : Nat} (bound : value < 32) : value? (digit value) = some value := by
  have : ∀ v : Fin 32, value? (digit v) = some v.val := by decide
  exact this ⟨value, bound⟩

theorem decodeFrom?_append (number : Nat) (left right : Text) :
    decodeFrom? number (left ++ right) =
      (decodeFrom? number left).bind fun middle => decodeFrom? middle right := by
  induction left generalizing number with
  | nil =>
      rfl
  | cons c rest inductionHypothesis =>
      simp only [List.cons_append, decodeFrom?]
      cases value? c with
      | none => rfl
      | some value => exact inductionHypothesis _

theorem encode_length (count number : Nat) : (encode count number).length = count := by
  induction count generalizing number with
  | zero => rfl
  | succ count inductionHypothesis => simp [encode, inductionHypothesis]

theorem decode?_encode (count number : Nat) (bound : number < Nat.pow 32 count) :
    decode? (encode count number) = some number := by
  unfold decode?
  induction count generalizing number with
  | zero =>
      have : number = 0 := by simpa using bound
      simp [encode, decodeFrom?, this]
  | succ count inductionHypothesis =>
      have upper : number / 32 < Nat.pow 32 count := by
        have unfolded : Nat.pow 32 (count + 1) = Nat.pow 32 count * 32 := rfl
        omega
      simp only [encode, decodeFrom?_append, inductionHypothesis _ upper, Option.bind_some,
        decodeFrom?, value?_digit (Nat.mod_lt number (by omega))]
      congr 1
      omega

end Base32

structure Id (kind : IdKind) where
  number : Nat
  number_lt : number < Nat.pow 2 128
deriving DecidableEq

abbrev TypeId := Id .type

abbrev FieldId := Id .field

namespace Id

variable {kind : IdKind}

/-- The id with the given number, counted modulo `2 ^ 128`. -/
def ofNat (number : Nat) : Id kind :=
  ⟨number % Nat.pow 2 128, Nat.mod_lt _ (by decide)⟩

def text (id : Id kind) : Text :=
  kind.label ++ '_' :: Base32.encode 26 id.number

instance : ToString (Id kind) := ⟨fun id => String.ofList id.text⟩

def ofDigits? (digits : Text) : Option (Id kind) :=
  if digits.length = 26 then
    match Base32.decode? digits with
    | some number => if bound : number < Nat.pow 2 128 then some ⟨number, bound⟩ else none
    | none => none
  else none

/-- Reads the text of an id.  The text of an id of another kind is refused. -/
def ofText? (kind : IdKind) (text : Text) : Option (Id kind) :=
  if (kind.label ++ ['_']).isPrefixOf text then ofDigits? (text.drop (kind.label.length + 1))
  else none

theorem ofText?_text (id : Id kind) : ofText? kind id.text = some id := by
  have isPrefix : (kind.label ++ ['_']).isPrefixOf id.text = true := by
    rw [List.isPrefixOf_iff_prefix]
    exact ⟨Base32.encode 26 id.number, by simp [text]⟩
  have rest : id.text.drop (kind.label.length + 1) = Base32.encode 26 id.number := by
    have : id.text = (kind.label ++ ['_']) ++ Base32.encode 26 id.number := by simp [text]
    rw [this]
    exact List.drop_left' (by simp)
  have bound : id.number < Nat.pow 32 26 := Nat.lt_of_lt_of_le id.number_lt (by decide)
  simp only [ofText?, isPrefix, if_true, rest, ofDigits?, Base32.encode_length,
    Base32.decode?_encode 26 id.number bound]
  rw [dif_pos id.number_lt]

end Id

structure FreshIds where
  type : TypeId
  field : FieldId

/-- A source of ids: the number of the next one. -/
structure IdSupply where
  next : Nat
deriving DecidableEq

namespace IdSupply

def fresh (supply : IdSupply) : FreshIds :=
  ⟨Id.ofNat supply.next, Id.ofNat supply.next⟩

def advance (supply : IdSupply) : IdSupply :=
  ⟨supply.next + 1⟩

end IdSupply

end SdlWorkbench
