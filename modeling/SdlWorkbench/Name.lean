import SdlWorkbench.Text.Basic
/-!
Names: the identifiers that types, fields, enum values, directives and type references carry.

A name starts with a letter or an underscore and goes on with letters, digits and underscores, all
of them ASCII.  `Name.unused` gives the first free name of the family `base`, `base1`, `base2`, …
-/

namespace SdlWorkbench

def isNameStart (c : Char) : Bool :=
  c.isAlpha || c = '_'

def isNameChar (c : Char) : Bool :=
  c.isAlphanum || c = '_'

def isIdentifier : Text → Bool
  | [] => false
  | c :: rest => isNameStart c && rest.all isNameChar

/-- A text that is an identifier. -/
structure Name where
  text : Text
  isIdentifier_text : isIdentifier text = true
deriving DecidableEq

namespace Name

instance : ToString Name := ⟨fun name => String.ofList name.text⟩

theorem ext_text {left right : Name} (textEq : left.text = right.text) : left = right := by
  cases left
  cases right
  cases textEq
  rfl

def ofText? (text : Text) : Option Name :=
  if valid : isIdentifier text = true then some ⟨text, valid⟩ else none

def literal (text : String) (valid : isIdentifier text.toList = true := by decide) : Name :=
  ⟨text.toList, valid⟩

theorem ofText?_text (name : Name) : ofText? name.text = some name := by
  simp [ofText?, name.isIdentifier_text]

theorem ofText?_eq_some_iff {text : Text} {name : Name} :
    ofText? text = some name ↔ name.text = text := by
  constructor
  · intro found
    unfold ofText? at found
    split at found
    · cases found
      rfl
    · contradiction
  · intro textEq
    subst textEq
    exact ofText?_text name

theorem ofText?_eq_none_iff {text : Text} : ofText? text = none ↔ isIdentifier text = false := by
  unfold ofText?
  split <;> simp_all

theorem isNameChar_of_mem_toDigits {c : Char} {n : Nat} (member : c ∈ Nat.toDigits 10 n) :
    isNameChar c = true := by
  have digit : c.isDigit = true := Nat.isDigit_of_mem_toDigits (by omega) (by omega) member
  simp [isNameChar, Char.isAlphanum, digit]

def withSuffix (name : Name) (n : Nat) : Name where
  text := name.text ++ Nat.toDigits 10 n
  isIdentifier_text := by
    obtain ⟨text, valid⟩ := name
    cases text with
    | nil =>
        simp [isIdentifier] at valid
    | cons c rest =>
        simp only [isIdentifier, Bool.and_eq_true, List.all_eq_true, List.cons_append,
          List.mem_append] at valid ⊢
        refine ⟨valid.1, ?_⟩
        intro d member
        rcases member with old | new
        · exact valid.2 d old
        · exact isNameChar_of_mem_toDigits new

/-- The base itself when it is not taken, otherwise the base with the least positive number that
makes it free.  As many candidates as there are taken names always suffice, because the base is one
of the taken names and the candidates differ from each other. -/
def unused (base : Name) (taken : List Name) : Name :=
  if base ∈ taken then
    (((List.range taken.length).map fun n => base.withSuffix (n + 1)).find? fun candidate =>
      candidate ∉ taken).getD base
  else base

end Name

end SdlWorkbench
