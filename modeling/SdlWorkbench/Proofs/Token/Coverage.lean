import SdlWorkbench.Proofs.Token.Matching
import SdlWorkbench.Proofs.Token.Places
/-!
Every byte of a text.

A text falls into stretches: its items, which are tokens and text that is no token, and between them
ignored text.  An item is the text under its span, and a byte under no span is ignored.
-/

namespace SdlWorkbench

def Span.Covers (span : Span) (byte : Nat) : Prop :=
  span.start ≤ byte ∧ byte < span.stop

/-- A stretch of ignored text in front of `behind`: a separator, or a comment with all of its line but
the line feed. -/
inductive IsIgnored : Text → Text → Prop where
  | separator {c : Char} (separates : isSeparator c = true) (behind : Text) : IsIgnored [c] behind
  | comment {line behind : Text} (oneLine : '\n' ∉ line)
      (ends : behind = [] ∨ behind.head? = some '\n') : IsIgnored ('#' :: line) behind

/-- From the byte `offset` on the text is a sequence of ignored stretches and items. -/
inductive SourceItem.Cover : Nat → Text → List SourceItem → Prop where
  | done (offset : Nat) : Cover offset [] []
  | ignored {offset : Nat} {stretch rest : Text} {items : List SourceItem}
      (isIgnored : IsIgnored stretch rest)
      (later : Cover (offset + stretch.utf8Length) rest items) :
      Cover offset (stretch ++ rest) items
  | item {offset : Nat} {piece : Piece} {items : List SourceItem} (isMatch : piece.IsMatch)
      (later : Cover (offset + piece.text.utf8Length) piece.rest items) :
      Cover offset (piece.text ++ piece.rest)
        (⟨piece.kind, piece.text, ⟨offset, offset + piece.text.utf8Length⟩⟩ :: items)

namespace SourceItem

/-- Inside a comment the rest of the line is ignored first. -/
theorem exists_line_of_comment (text : Text) : ∃ line behind, text = line ++ behind ∧
    '\n' ∉ line ∧ (behind = [] ∨ behind.head? = some '\n') ∧
      takeIgnored true text =
        (line ++ (takeIgnored false behind).1, (takeIgnored false behind).2) := by
  induction text with
  | nil => exact ⟨[], [], rfl, List.not_mem_nil, .inl rfl, rfl⟩
  | cons c rest ih =>
      by_cases isFeed : c = '\n'
      · subst isFeed
        exact ⟨[], '\n' :: rest, rfl, List.not_mem_nil, .inr rfl, rfl⟩
      · obtain ⟨line, behind, rfl, oneLine, ends, taken⟩ := ih
        have stays : (c != '\n') = true := by simpa using isFeed
        refine ⟨c :: line, behind, rfl, ?_, ends, ?_⟩
        · rw [List.mem_cons, not_or]
          exact ⟨Ne.symm isFeed, oneLine⟩
        · simp only [takeIgnored, Bool.true_or, if_true, stays, taken, List.cons_append]

theorem Cover.of_takeIgnored {text : Text} {offset : Nat} {items : List SourceItem}
    (later : Cover (offset + (takeIgnored false text).1.utf8Length) (takeIgnored false text).2 items) :
    Cover offset text items := by
  match text with
  | [] => exact later
  | c :: rest =>
      by_cases separates : isSeparator c = true
      · rw [takeIgnored_separator separates, Text.utf8Length, ← Nat.add_assoc] at later
        exact .ignored (.separator separates rest) (Cover.of_takeIgnored later)
      by_cases isMark : c = '#'
      · subst isMark
        obtain ⟨line, behind, rfl, oneLine, ends, taken⟩ := exists_line_of_comment rest
        have skipped : takeIgnored false ('#' :: (line ++ behind)) =
            ('#' :: line ++ (takeIgnored false behind).1, (takeIgnored false behind).2) := by
          rw [takeIgnored, if_pos (by simp)]
          simp [taken]
        rw [skipped, Text.utf8Length_append, ← Nat.add_assoc] at later
        exact .ignored (.comment oneLine ends) (Cover.of_takeIgnored later)
      · rw [takeIgnored, if_neg (by simp [separates, isMark])] at later
        exact later
termination_by text.length

theorem scanFrom_cover (offset : Nat) (text : Text) : Cover offset text (scanFrom offset text) := by
  fun_induction scanFrom offset text with
  | case1 offset text ended =>
      apply Cover.of_takeIgnored
      rw [ended]
      exact .done _
  | case2 offset text start c rest started piece stop ih =>
      apply Cover.of_takeIgnored
      have pieces : piece.text ++ piece.rest = c :: rest := Piece.next_append c rest
      rw [started, ← pieces]
      exact .item (Piece.next_isMatch c rest) ih

namespace Cover

variable {offset : Nat} {text : Text} {items : List SourceItem}

theorem le_start (cover : Cover offset text items) : ∀ item ∈ items, offset ≤ item.span.start := by
  induction cover with
  | done => exact List.forall_mem_nil _
  | ignored _ _ ih => exact fun item member => Nat.le_of_add_right_le (ih item member)
  | item _ _ ih =>
      exact List.forall_mem_cons.mpr
        ⟨Nat.le_refl _, fun item member => Nat.le_of_add_right_le (ih item member)⟩

theorem exists_isMatch (cover : Cover offset text items) {whole passed : Text}
    (parts : whole = passed ++ text) (atOffset : passed.utf8Length = offset) :
    ∀ item ∈ items, ∃ front back, whole = front ++ item.text ++ back ∧
      item.span = ⟨front.utf8Length, (front ++ item.text).utf8Length⟩ ∧
      Piece.IsMatch ⟨item.kind, item.text, back⟩ := by
  induction cover generalizing passed with
  | done => exact List.forall_mem_nil _
  | @ignored _ stretch _ _ _ _ ih =>
      refine @ih (passed ++ stretch) (by rw [parts, List.append_assoc]) ?_
      rw [Text.utf8Length_append, atOffset]
  | @item offset piece _ isMatch _ ih =>
      have parts' : whole = (passed ++ piece.text) ++ piece.rest := by rw [parts, List.append_assoc]
      have behind : (passed ++ piece.text).utf8Length = offset + piece.text.utf8Length := by
        rw [Text.utf8Length_append, atOffset]
      refine List.forall_mem_cons.mpr ⟨⟨passed, piece.rest, parts', ?_, isMatch⟩, ih parts' behind⟩
      rw [behind, atOffset]

end Cover

/-- A byte under no span belongs to an ignored stretch, which begins at the offset or later. -/
theorem Cover.exists_ignored {offset : Nat} {text : Text} {items : List SourceItem}
    (cover : Cover offset text items) {whole passed : Text} (parts : whole = passed ++ text)
    (atOffset : passed.utf8Length = offset) {byte : Nat} (inside : offset ≤ byte)
    (before : byte < whole.utf8Length) (uncovered : ∀ item ∈ items, ¬ item.span.Covers byte) :
    ∃ front stretch back, whole = front ++ stretch ++ back ∧ IsIgnored stretch back ∧
      offset ≤ front.utf8Length ∧ front.utf8Length ≤ byte ∧ byte < (front ++ stretch).utf8Length ∧
      ∀ item ∈ items,
        item.span.stop ≤ front.utf8Length ∨ (front ++ stretch).utf8Length ≤ item.span.start := by
  induction cover generalizing passed with
  | done =>
      rw [parts, List.append_nil, atOffset] at before
      omega
  | @ignored offset stretch rest items isIgnored later ih =>
      have parts' : whole = (passed ++ stretch) ++ rest := by rw [parts, List.append_assoc]
      have behind : (passed ++ stretch).utf8Length = offset + stretch.utf8Length := by
        rw [Text.utf8Length_append, atOffset]
      by_cases here : byte < offset + stretch.utf8Length
      · refine ⟨passed, stretch, rest, parts', isIgnored, Nat.le_of_eq atOffset.symm, by omega,
          by omega, ?_⟩
        intro item member
        rw [behind]
        exact .inr (later.le_start item member)
      · obtain ⟨front, other, back, whole', ignored, beyond, place⟩ :=
          ih parts' behind (by omega) uncovered
        exact ⟨front, other, back, whole', ignored, by omega, place⟩
  | @item offset piece items _ later ih =>
      rw [List.forall_mem_cons] at uncovered
      have parts' : whole = (passed ++ piece.text) ++ piece.rest := by rw [parts, List.append_assoc]
      have behind : (passed ++ piece.text).utf8Length = offset + piece.text.utf8Length := by
        rw [Text.utf8Length_append, atOffset]
      have passedBy : offset + piece.text.utf8Length ≤ byte :=
        Nat.le_of_not_lt fun here => uncovered.1 ⟨inside, here⟩
      obtain ⟨front, other, back, whole', ignored, beyond, starts, stops, apart⟩ :=
        ih parts' behind passedBy uncovered.2
      exact ⟨front, other, back, whole', ignored, by omega, starts, stops,
        List.forall_mem_cons.mpr ⟨.inl beyond, apart⟩⟩

theorem filterMap_invalidSpan? (items : List SourceItem) : items.filterMap invalidSpan? =
    (items.filter fun item => item.kind = none).map span := by
  induction items with
  | nil => rfl
  | cons item rest ih =>
      obtain ⟨kind, text, place⟩ := item
      cases kind with
      | none => exact congrArg (place :: ·) ih
      | some kind => exact ih

end SourceItem

/-- A text is refused exactly for its items that are no tokens. -/
theorem Token.ofText_eq_error_iff {text : Text} {spans : List Span} :
    ofText text = .error spans ↔ (∃ item ∈ SourceItem.scan text, item.kind = none) ∧
      spans = ((SourceItem.scan text).filter fun item => item.kind = none).map SourceItem.span := by
  rw [ofText, SourceItem.filterMap_invalidSpan?]
  cases invalid : (SourceItem.scan text).filter fun item => item.kind = none with
  | nil =>
      have valid : ¬ ∃ item ∈ SourceItem.scan text, item.kind = none := by
        simpa [List.filter_eq_nil_iff] using invalid
      simp [valid]
  | cons first rest =>
      obtain ⟨member, isNone⟩ := List.mem_filter.mp (invalid ▸ List.mem_cons_self)
      have isInvalid : ∃ item ∈ SourceItem.scan text, item.kind = none :=
        ⟨first, member, of_decide_eq_true isNone⟩
      simp [isInvalid, eq_comm]

namespace SourceItem

/-- The items of a text account for all of it.  They stand in order, each of them is the text under its
span and a match there, and every byte under no span belongs to a separator or a comment outside all
spans.  The text has its items for tokens if all of them are, and otherwise the rest is reported. -/
theorem scan_accounts (text : Text) :
    Span.InOrder text.IsBoundary 0 ((scan text).map span) ∧
    (∀ item ∈ scan text, ∃ front back, text = front ++ item.text ++ back ∧
      item.span = ⟨front.utf8Length, (front ++ item.text).utf8Length⟩ ∧
      Piece.IsMatch ⟨item.kind, item.text, back⟩) ∧
    (∀ byte < text.utf8Length, (∀ item ∈ scan text, ¬ item.span.Covers byte) →
      ∃ front stretch back, text = front ++ stretch ++ back ∧ IsIgnored stretch back ∧
        front.utf8Length ≤ byte ∧ byte < (front ++ stretch).utf8Length ∧
        ∀ item ∈ scan text,
          item.span.stop ≤ front.utf8Length ∨ (front ++ stretch).utf8Length ≤ item.span.start) ∧
    (∀ tokens, Token.ofText text = .ok tokens ↔ scan text = tokens.map Token.item) ∧
    (∀ spans, Token.ofText text = .error spans ↔
      (∃ item ∈ scan text, item.kind = none) ∧
        spans = ((scan text).filter fun item => item.kind = none).map span) := by
  have cover := scanFrom_cover 0 text
  refine ⟨scan_inOrder text, cover.exists_isMatch (List.nil_append text).symm rfl, ?_,
    fun _ => Token.ofText_eq_ok_iff, fun _ => Token.ofText_eq_error_iff⟩
  intro byte before uncovered
  obtain ⟨front, stretch, back, parts, isIgnored, -, place⟩ :=
    cover.exists_ignored (List.nil_append text).symm rfl (Nat.zero_le byte) before uncovered
  exact ⟨front, stretch, back, parts, isIgnored, place⟩

/-- A string that its line ends, a letter that starts no name, a name, and a quote in a comment. -/
def openText : Text :=
  "\"a\né b#\"c".toList

theorem openText_accounts :
    8 < openText.utf8Length ∧ (∀ item ∈ scan openText, ¬ item.span.Covers 8) ∧
    (∃ front stretch back, openText = front ++ stretch ++ back ∧ IsIgnored stretch back ∧
      front.utf8Length ≤ 8 ∧ 8 < (front ++ stretch).utf8Length ∧
      ∀ item ∈ scan openText,
        item.span.stop ≤ front.utf8Length ∨ (front ++ stretch).utf8Length ≤ item.span.start) ∧
    Token.ofText openText = .error [⟨0, 2⟩, ⟨3, 5⟩] := by
  have items : scan openText = [⟨none, ['"', 'a'], ⟨0, 2⟩⟩, ⟨none, ['é'], ⟨3, 5⟩⟩,
      ⟨some .identifier, ['b'], ⟨6, 7⟩⟩] := by
    decide +kernel
  have inside : 8 < openText.utf8Length := by decide
  have uncovered : ∀ item ∈ scan openText, ¬ item.span.Covers 8 := by
    simp [items, Span.Covers]
  obtain ⟨-, -, bytes, -, refused⟩ := scan_accounts openText
  refine ⟨inside, uncovered, bytes 8 inside uncovered, (refused _).mpr ⟨?_, ?_⟩⟩
  · exact ⟨_, items ▸ List.mem_cons_self, rfl⟩
  · rw [items]
    decide

end SourceItem

end SdlWorkbench
