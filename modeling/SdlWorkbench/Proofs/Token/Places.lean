import SdlWorkbench.Proofs.Token.Reading
/-!
The places of tokens.

The items of a text stand one behind the other, each of them covers at least one byte, and all of them
begin and end between two characters.  So do the tokens of the text, and its invalid spans.
-/

namespace SdlWorkbench

namespace Text

/-- The offset lies between two characters of the text, or at one of its ends. -/
def IsBoundary (text : Text) (offset : Nat) : Prop :=
  ∃ front back, text = front ++ back ∧ front.utf8Length = offset

theorem IsBoundary.le_utf8Length {text : Text} {offset : Nat} (boundary : text.IsBoundary offset) :
    offset ≤ text.utf8Length := by
  obtain ⟨front, back, rfl, rfl⟩ := boundary
  rw [utf8Length_append]
  exact Nat.le_add_right _ _

end Text

namespace Span

/-- Spans one behind the other from `floor` on: none is empty, each begins where the one in front of it
has ended or later, and all begin and end at boundaries. -/
inductive InOrder (boundary : Nat → Prop) : Nat → List Span → Prop where
  | nil (floor : Nat) : InOrder boundary floor []
  | cons {floor : Nat} {span : Span} {spans : List Span} (begins : floor ≤ span.start)
      (covers : span.start < span.stop) (startWhole : boundary span.start)
      (stopWhole : boundary span.stop) (later : InOrder boundary span.stop spans) :
      InOrder boundary floor (span :: spans)

namespace InOrder

variable {boundary : Nat → Prop} {floor : Nat} {span : Span} {spans : List Span}

theorem lower {earlier : Nat} (inOrder : InOrder boundary floor spans) (before : earlier ≤ floor) :
    InOrder boundary earlier spans := by
  cases inOrder with
  | nil => exact .nil earlier
  | cons begins covers startWhole stopWhole later =>
      exact .cons (Nat.le_trans before begins) covers startWhole stopWhole later

theorem tail (inOrder : InOrder boundary floor (span :: spans)) : InOrder boundary floor spans := by
  cases inOrder with
  | cons begins covers _ _ later =>
      exact later.lower (Nat.le_trans begins (Nat.le_of_lt covers))

theorem sublist {some : List Span} (inOrder : InOrder boundary floor spans)
    (part : some.Sublist spans) : InOrder boundary floor some := by
  induction part generalizing floor with
  | slnil => exact inOrder
  | cons _ _ ih => exact ih inOrder.tail
  | cons_cons _ _ ih =>
      cases inOrder with
      | cons begins covers startWhole stopWhole later =>
          exact .cons begins covers startWhole stopWhole (ih later)

theorem le_start (inOrder : InOrder boundary floor spans) : ∀ span ∈ spans, floor ≤ span.start := by
  induction inOrder with
  | nil =>
      intro span impossible
      cases impossible
  | cons begins covers _ _ _ ih =>
      rw [List.forall_mem_cons]
      refine ⟨begins, fun span member => ?_⟩
      exact Nat.le_trans begins (Nat.le_trans (Nat.le_of_lt covers) (ih span member))

theorem pairwise (inOrder : InOrder boundary floor spans) :
    spans.Pairwise fun first next => first.start < next.start ∧ first.stop ≤ next.start := by
  induction inOrder with
  | nil => exact .nil
  | cons _ covers _ _ later ih =>
      refine .cons (fun next member => ?_) ih
      have apart := later.le_start next member
      exact ⟨Nat.lt_of_lt_of_le covers apart, apart⟩

theorem forall_mem (inOrder : InOrder boundary floor spans) :
    ∀ span ∈ spans, span.start < span.stop ∧ boundary span.start ∧ boundary span.stop := by
  induction inOrder with
  | nil =>
      intro span impossible
      cases impossible
  | cons _ covers startWhole stopWhole _ ih =>
      exact List.forall_mem_cons.mpr ⟨⟨covers, startWhole, stopWhole⟩, ih⟩

end InOrder

end Span

theorem SourceItem.scanFrom_inOrder (whole : Text) (offset : Nat) (text : Text) :
    ∀ front : Text, whole = front ++ text → front.utf8Length = offset →
      Span.InOrder whole.IsBoundary offset ((scanFrom offset text).map SourceItem.span) := by
  fun_induction scanFrom offset text with
  | case1 offset text ended =>
      intro _ _ _
      exact .nil offset
  | case2 offset text start c rest started piece stop ih =>
      intro front parts atOffset
      have skipped := takeIgnored_append false text
      have pieces : piece.text ++ piece.rest = c :: rest := Piece.next_append c rest
      rw [started, ← pieces] at skipped
      have atStart : whole = (front ++ (takeIgnored false text).1) ++ (piece.text ++ piece.rest) := by
        rw [parts, List.append_assoc, skipped]
      have atStop : whole =
          (front ++ (takeIgnored false text).1 ++ piece.text) ++ piece.rest := by
        rw [atStart, List.append_assoc _ piece.text]
      have startLength : (front ++ (takeIgnored false text).1).utf8Length = start := by
        rw [Text.utf8Length_append, atOffset]
      have stopLength : (front ++ (takeIgnored false text).1 ++ piece.text).utf8Length = stop := by
        rw [Text.utf8Length_append, startLength]
      have covers : start < stop :=
        Nat.lt_add_of_pos_right (Text.utf8Length_pos (Piece.next_text_ne_nil c rest))
      exact .cons (Nat.le_add_right _ _) covers ⟨_, _, atStart, startLength⟩
        ⟨_, _, atStop, stopLength⟩ (ih _ atStop stopLength)

theorem SourceItem.scan_inOrder (text : Text) :
    Span.InOrder text.IsBoundary 0 ((scan text).map SourceItem.span) :=
  scanFrom_inOrder text 0 text [] rfl rfl

namespace Token

abbrev InOrder (boundary : Nat → Prop) (floor : Nat) (tokens : List Token) : Prop :=
  Span.InOrder boundary floor (tokens.map Token.span)

theorem ofText_inOrder {text : Text} {tokens : List Token} (read : ofText text = .ok tokens) :
    InOrder text.IsBoundary 0 tokens := by
  have inOrder := SourceItem.scan_inOrder text
  rw [ofText_eq_ok_iff.mp read, List.map_map] at inOrder
  exact inOrder

private theorem invalidSpan?_sublist (items : List SourceItem) :
    (items.filterMap SourceItem.invalidSpan?).Sublist (items.map SourceItem.span) := by
  induction items with
  | nil => exact .slnil
  | cons item rest ih =>
      obtain ⟨kind, text, span⟩ := item
      cases kind with
      | none => exact ih.cons_cons span
      | some kind => exact ih.cons span

theorem ofText_error_inOrder {text : Text} {spans : List Span} (refused : ofText text = .error spans) :
    spans ≠ [] ∧ Span.InOrder text.IsBoundary 0 spans := by
  rw [ofText] at refused
  split at refused
  · cases refused
  · next invalid =>
      cases refused
      exact ⟨invalid, (SourceItem.scan_inOrder text).sublist (invalidSpan?_sublist _)⟩

end Token

end SdlWorkbench
