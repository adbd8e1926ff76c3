import SdlWorkbench.Id
import Mathlib.Data.List.Induction
/-!
The texts of ids.

A number of so many digits has one text, so a text that is read as an id is the text of that id: the
label of its kind, an underscore and the digits.
-/

namespace SdlWorkbench

namespace Base32

theorem digit_of_value? {c : Char} {value : Nat} (found : value? c = some value) :
    value < 32 ∧ digit value = c := by
  obtain ⟨inAlphabet, isChar, -⟩ := List.findIdx?_eq_some_iff_getElem.mp found
  refine ⟨inAlphabet, ?_⟩
  rw [digit, List.getD_eq_getElem?_getD, List.getElem?_eq_getElem inAlphabet, Option.getD_some]
  exact eq_of_beq isChar

theorem encode_of_decodeFrom? {start : Nat} (digits : Text) :
    ∀ number, decodeFrom? start digits = some number → encode digits.length number = digits := by
  induction digits using List.reverseRecOn with
  | nil => exact fun _ _ => rfl
  | append_singleton front last ih =>
      intro number read
      rw [decodeFrom?_append, Option.bind_eq_some_iff] at read
      obtain ⟨upper, frontRead, lastRead⟩ := read
      rw [decodeFrom?] at lastRead
      cases found : value? last with
      | none =>
          rw [found] at lastRead
          cases lastRead
      | some value =>
          rw [found] at lastRead
          cases lastRead
          obtain ⟨small, isDigit⟩ := digit_of_value? found
          have quotient : (upper * 32 + value) / 32 = upper := by omega
          have remainder : (upper * 32 + value) % 32 = value := by omega
          rw [List.length_append, List.length_singleton, encode, quotient, remainder, isDigit,
            ih upper frontRead]

end Base32

namespace Id

variable {kind : IdKind}

theorem prefix_text (id : Id kind) : kind.label ++ ['_'] <+: id.text :=
  ⟨Base32.encode 26 id.number, by rw [text, List.append_assoc, List.singleton_append]⟩

theorem ofDigits?_eq_some {digits : Text} {id : Id kind} (read : ofDigits? digits = some id) :
    Base32.encode 26 id.number = digits := by
  rw [ofDigits?] at read
  split at read
  · next size =>
      split at read
      · next number decoded =>
          split at read
          · cases read
            have same := Base32.encode_of_decodeFrom? digits number decoded
            rwa [size] at same
          · cases read
      · cases read
  · cases read

/-- Exactly the text of an id is read as that id. -/
theorem ofText?_eq_some_iff {text : Text} {id : Id kind} :
    ofText? kind text = some id ↔ id.text = text := by
  constructor
  · intro read
    rw [ofText?] at read
    split at read
    · next labelled =>
        obtain ⟨digits, rfl⟩ := List.isPrefixOf_iff_prefix.mp labelled
        rw [List.drop_left' (by simp)] at read
        rw [Id.text, ofDigits?_eq_some read, List.append_assoc, List.singleton_append]
    · cases read
  · rintro rfl
    exact ofText?_text id

end Id

end SdlWorkbench
