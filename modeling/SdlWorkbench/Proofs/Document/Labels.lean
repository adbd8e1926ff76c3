import SdlWorkbench.Diagnostic
import SdlWorkbench.Proofs.Document.Places
/-!
The labels of diagnostics.

An error that has a span is labelled there, so its label covers whole characters.  The end of the text is
labelled at the last byte, which is a whole character only where the last character takes one byte.
-/

namespace SdlWorkbench

namespace Text

def EndsInByte (text : Text) : Prop :=
  ∃ front c, text = front ++ [c] ∧ c.utf8Size = 1

theorem eq_singleton_of_utf8Length_eq_one {text : Text} (single : text.utf8Length = 1) :
    ∃ c, text = [c] ∧ c.utf8Size = 1 := by
  cases text with
  | nil => cases single
  | cons c rest =>
      have positive := c.utf8Size_pos
      rw [utf8Length] at single
      cases rest with
      | nil => exact ⟨c, rfl, single⟩
      | cons next others =>
          have behind := utf8Length_pos (List.cons_ne_nil next others)
          omega

theorem isBoundary_utf8Length (text : Text) : text.IsBoundary text.utf8Length :=
  ⟨text, [], (List.append_nil text).symm, rfl⟩

theorem isBoundary_lastByte_iff {text : Text} (nonempty : text ≠ []) :
    text.IsBoundary (text.utf8Length - 1) ↔ text.EndsInByte := by
  have positive := utf8Length_pos nonempty
  constructor
  · rintro ⟨front, back, rfl, reaches⟩
    rw [utf8Length_append] at reaches positive
    have single : back.utf8Length = 1 := by omega
    obtain ⟨c, rfl, byte⟩ := eq_singleton_of_utf8Length_eq_one single
    exact ⟨front, c, rfl, byte⟩
  · rintro ⟨front, c, rfl, byte⟩
    refine ⟨front, [c], rfl, ?_⟩
    rw [utf8Length_append, utf8Length, byte, utf8Length]
    omega

theorem IsBoundary.isSome_dropBytes? {text : Text} {offset : Nat}
    (boundary : text.IsBoundary offset) : (dropBytes? offset text).isSome = true := by
  obtain ⟨front, back, rfl, rfl⟩ := boundary
  rw [dropBytes?_append]
  rfl

end Text

namespace Diagnostic

def stop (diagnostic : Diagnostic) : Nat :=
  diagnostic.offset + diagnostic.length

/-- The label covers a part of the text that is not empty and made of whole characters. -/
def PointsAtText (text : Text) (diagnostic : Diagnostic) : Prop :=
  diagnostic.offset < diagnostic.stop ∧ diagnostic.stop ≤ text.utf8Length ∧
    text.IsBoundary diagnostic.offset ∧ text.IsBoundary diagnostic.stop

/-- Where the label of an error lies in the text that has the error. -/
structure Labels (text : Text) (error : SyntaxError) (diagnostic : Diagnostic) : Prop where
  covers : diagnostic.offset < diagnostic.stop
  inside : diagnostic.stop ≤ text.utf8Length
  stopWhole : text.IsBoundary diagnostic.stop
  onSpan : ∀ span, error.span? = some span →
    diagnostic.offset = span.start ∧ diagnostic.stop = span.stop
  atEnd : error.span? = none → diagnostic.offset + 1 = text.utf8Length
  /-- Only the end of the text can be labelled inside a character. -/
  pointsAtText_iff : diagnostic.PointsAtText text ↔ (error.span? = none → text.EndsInByte)

variable {text : Text} {error : SyntaxError}

theorem ofError_of_span (text : Text) {span : Span} (points : error.span? = some span) :
    (ofError text error).offset = span.start ∧ (ofError text error).length = span.length := by
  cases error with
  | unexpectedEnd expected => cases points
  | _ =>
      cases points
      exact ⟨rfl, rfl⟩

theorem ofError_of_no_span (text : Text) (pointless : error.span? = none) :
    (ofError text error).offset = text.utf8Length - 1 ∧ (ofError text error).length = 1 := by
  cases error with
  | unexpectedEnd expected => exact ⟨rfl, rfl⟩
  | _ => cases pointless

theorem labels_of_span {span : Span} (points : error.span? = some span)
    (covers : span.start < span.stop) (inside : span.stop ≤ text.utf8Length)
    (startWhole : text.IsBoundary span.start) (stopWhole : text.IsBoundary span.stop) :
    (ofError text error).Labels text error := by
  obtain ⟨begins, long⟩ := ofError_of_span text points
  have ends : (ofError text error).stop = span.stop := by
    rw [stop, begins, long, Span.length]
    omega
  constructor
  case covers => rwa [ends, begins]
  case inside => rwa [ends]
  case stopWhole => rwa [ends]
  case onSpan =>
    intro other same
    rw [points] at same
    cases same
    exact ⟨begins, ends⟩
  case atEnd =>
    intro pointless
    rw [points] at pointless
    cases pointless
  case pointsAtText_iff =>
    rw [PointsAtText, ends, begins, points]
    constructor
    · intro _ impossible
      cases impossible
    · intro _
      exact ⟨covers, inside, startWhole, stopWhole⟩

theorem labels_of_no_span (nonempty : text ≠ []) (pointless : error.span? = none) :
    (ofError text error).Labels text error := by
  have positive := Text.utf8Length_pos nonempty
  have whole := text.isBoundary_utf8Length
  obtain ⟨begins, long⟩ := ofError_of_no_span text pointless
  -- The text has bytes, so one less than their number is the place of the last.
  have ends : (ofError text error).stop = text.utf8Length := by
    rw [stop, begins, long]
    omega
  have covers : (ofError text error).offset < (ofError text error).stop := by omega
  constructor
  case covers => exact covers
  case inside => exact ends.le
  case stopWhole => rwa [ends]
  case onSpan =>
    intro span points
    rw [pointless] at points
    cases points
  case atEnd =>
    intro _
    omega
  case pointsAtText_iff =>
    rw [PointsAtText, ends, begins, Text.isBoundary_lastByte_iff nonempty]
    constructor
    · intro pointing _
      exact pointing.2.2.1
    · intro endsInByte
      exact ⟨by omega, Nat.le_refl _, endsInByte pointless, whole⟩

end Diagnostic

namespace Schema

theorem ne_nil_of_ofText_error {text : Text} {supply : IdSupply} {errors : List SyntaxError}
    (refused : ofText supply text = .error errors) : text ≠ [] := by
  rintro rfl
  have accepted : Document.ofText [] = .ok [] := by cbv
  rw [errors_of_ofText refused] at accepted
  cases accepted

/-- The label of every error of a text covers at least one byte of it and ends between two characters.
It begins between two characters, too, unless the error is at the end of the text and the last character
takes several bytes. -/
theorem labels_of_ofText {text : Text} {supply : IdSupply} {errors : List SyntaxError}
    (refused : ofText supply text = .error errors) :
    ∀ error ∈ errors, (Diagnostic.ofError text error).Labels text error := by
  have placed := ofText_error_wellPlaced refused
  intro error member
  cases points : error.span? with
  | some span =>
      obtain ⟨covers, inside, startWhole, stopWhole⟩ := placed.inside error member span points
      exact Diagnostic.labels_of_span points covers inside startWhole stopWhole
  | none => exact Diagnostic.labels_of_no_span (ne_nil_of_ofText_error refused) points

/-- The type of a field is missing, then the name of a directive, and behind them stands a comment that
ends in two bytes. -/
def wideEndText : Text :=
  "type A \x7b x: \x7d type B @ # é".toList

def wideEndErrors : List SyntaxError :=
  [.missingFieldType ['x'] ⟨9, 12⟩, .unexpectedEnd .directiveName]

theorem wideEndText_labels :
    ofText ⟨0⟩ wideEndText = .error wideEndErrors ∧
      ∀ error ∈ wideEndErrors, (Diagnostic.ofError wideEndText error).Labels wideEndText error :=
  have refused : ofText ⟨0⟩ wideEndText = .error wideEndErrors := by decide +kernel
  ⟨refused, labels_of_ofText refused⟩

theorem labels_not_always_whole :
    ¬ ∀ text supply errors, ofText supply text = .error errors → ∀ error ∈ errors,
      (Diagnostic.ofError text error).PointsAtText text := by
  intro whole
  have refused : ofText ⟨0⟩ "type # é".toList = .error [.unexpectedEnd .typeName] := by
    decide +kernel
  obtain ⟨-, -, startWhole, -⟩ := whole _ _ _ refused _ List.mem_cons_self
  have cut := startWhole.isSome_dropBytes?
  revert cut
  decide +kernel

end Schema

end SdlWorkbench
