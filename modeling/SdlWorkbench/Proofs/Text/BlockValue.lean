import SdlWorkbench.Proofs.Text.Settled
/-!
The lines of a block string's value.

Without carriage returns the value says the lines inside the block that are not blank, in order.  The
first is kept as it is, and from the later ones their common indentation is taken.  When the value has
several lines its last line is a later one, so some later line stands at the margin: the lines stand
flush, and the value settles to itself.
-/

namespace SdlWorkbench.Text

def visibleLines (lines : List Text) : List Text :=
  lines.filter fun line => !isBlank line

theorem mem_visibleLines {line : Text} {lines : List Text} :
    line ∈ visibleLines lines ↔ line ∈ lines ∧ isBlank line = false := by
  simp [visibleLines]

theorem visibleLines_dropWhile (lines : List Text) :
    visibleLines (lines.dropWhile isBlank) = visibleLines lines := by
  induction lines with
  | nil => rfl
  | cons line rest ih =>
      rw [List.dropWhile_cons]
      split
      · next blank =>
          rw [ih]
          simp [visibleLines, blank]
      · rfl

theorem visibleLines_trimBlankLines (lines : List Text) :
    visibleLines (trimBlankLines lines) = visibleLines lines := by
  have reversed : ∀ lines : List Text, visibleLines lines.reverse = (visibleLines lines).reverse :=
    fun lines => List.filter_reverse
  rw [trimBlankLines, reversed, visibleLines_dropWhile, reversed, List.reverse_reverse,
    visibleLines_dropWhile]

/-- The indentation of lines is that of those which are not blank. -/
theorem commonIndentation_congr {first second : List Text}
    (same : visibleLines first = visibleLines second) :
    commonIndentation first = commonIndentation second := by
  rw [visibleLines, visibleLines] at same
  rw [commonIndentation, commonIndentation, same]

/-- The width is the indentation that the lines have in common: each visible line has at least this
much, and one of them no more. -/
structure IsCommonIndentation (width : Nat) (lines : List Text) : Prop where
  least : ∀ line ∈ visibleLines lines, width ≤ indentation line
  attained : visibleLines lines ≠ [] → ∃ line ∈ visibleLines lines, indentation line = width

theorem commonIndentation_isCommon (lines : List Text) :
    IsCommonIndentation (commonIndentation lines) lines where
  least := by
    intro line member
    obtain ⟨among, visible⟩ := mem_visibleLines.mp member
    exact commonIndentation_le among visible
  attained := by
    intro nonempty
    obtain ⟨other, member⟩ := List.exists_mem_of_ne_nil _ nonempty
    obtain ⟨line, among, visible, isCommon⟩ :=
      exists_indentation_eq ⟨other, mem_visibleLines.mp member⟩
    exact ⟨line, mem_visibleLines.mpr ⟨among, visible⟩, isCommon⟩

/-- A line with so much indentation is a margin of this width with something behind it. -/
theorem exists_margin {width : Nat} {line : Text} (fits : width ≤ indentation line) :
    ∃ margin rest, line = margin ++ rest ∧ margin.length = width ∧
      ∀ c ∈ margin, c = ' ' ∨ c = '\t' := by
  refine ⟨line.take width, line.drop width, (List.take_append_drop width line).symm, ?_, ?_⟩
  · have short : indentation line ≤ line.length := (List.takeWhile_prefix _).length_le
    rw [List.length_take]
    omega
  · intro c member
    have inMargin : c ∈ line.takeWhile fun c => c = ' ' || c = '\t' := by
      refine (List.IsPrefix.subset ?_) member
      exact List.prefix_of_prefix_length_le (List.take_prefix width line)
        (List.takeWhile_prefix _) (Nat.le_trans (List.length_take_le width line) fits)
    simpa using List.mem_takeWhile_imp inMargin

theorem utf8Length_margin {margin : Text} (blanks : ∀ c ∈ margin, c = ' ' ∨ c = '\t') :
    utf8Length margin = margin.length := by
  induction margin with
  | nil => rfl
  | cons c rest ih =>
      obtain ⟨first, later⟩ := List.forall_mem_cons.mp blanks
      have oneByte : c.utf8Size = 1 := by rcases first with rfl | rfl <;> rfl
      rw [utf8Length, ih later, oneByte, List.length_cons, Nat.add_comm]

theorem outdent_eq_drop {width : Nat} {line : Text} (fits : width ≤ indentation line) :
    outdent width line = line.drop width := by
  obtain ⟨margin, rest, rfl, rfl, blanks⟩ := exists_margin fits
  rw [outdent, ← utf8Length_margin blanks, dropBytes?_append, utf8Length_margin blanks,
    List.drop_left]
  rfl

theorem isBlank_drop {width : Nat} {line : Text} (fits : width ≤ indentation line) :
    isBlank (line.drop width) = isBlank line := by
  obtain ⟨margin, rest, rfl, rfl, blanks⟩ := exists_margin fits
  have blank : margin.all isWhiteSpace = true := by
    rw [List.all_eq_true]
    intro c member
    rcases blanks c member with rfl | rfl <;> rfl
  rw [List.drop_left, isBlank, isBlank, List.all_append, blank, Bool.true_and]

theorem indentation_drop {width : Nat} {line : Text} (fits : width ≤ indentation line) :
    indentation (line.drop width) = indentation line - width := by
  obtain ⟨margin, rest, rfl, rfl, blanks⟩ := exists_margin fits
  rw [List.drop_left, indentation, indentation,
    List.takeWhile_append_of_pos (by simpa using blanks), List.length_append, Nat.add_sub_cancel_left]

theorem isBlank_outdent (lines : List Text) : ∀ line ∈ lines,
    isBlank (outdent (commonIndentation lines) line) = isBlank line := by
  intro line member
  cases blank : isBlank line with
  | true =>
      rw [isBlank, List.all_eq_true] at blank ⊢
      exact fun c among => blank c ((outdent_suffix _ line).subset among)
  | false =>
      have fits := commonIndentation_le member blank
      rw [outdent_eq_drop fits, isBlank_drop fits, blank]

theorem visibleLines_outdentAll (lines : List Text) :
    visibleLines (outdentAll lines) =
      (visibleLines lines).map (List.drop (commonIndentation lines)) := by
  rw [outdentAll, visibleLines, List.filter_map]
  have sameLines : lines.filter ((fun line => !isBlank line) ∘ outdent (commonIndentation lines)) =
      visibleLines lines :=
    List.filter_congr fun line member => congrArg not (isBlank_outdent lines line member)
  rw [sameLines]
  exact List.map_congr_left fun line member =>
    outdent_eq_drop ((commonIndentation_isCommon lines).least line member)

/-- Without carriage returns the lines are the pieces between line feeds, of which an empty last one
does not count. -/
theorem splitOn_eq_lines {text : Text} (noReturn : '\r' ∉ text) :
    text.splitOn '\n' = lines text ∨ text.splitOn '\n' = lines text ++ [[]] := by
  fun_induction lines text with
  | case1 => exact .inr rfl
  | case2 rest ih =>
      rw [List.mem_cons, not_or] at noReturn
      rw [List.splitOn_cons_eq_if_modifyHead, if_pos (by decide)]
      rcases ih noReturn.2 with same | longer
      · exact .inl (by rw [same])
      · exact .inr (by rw [longer]; rfl)
  | case3 rest _ => exact absurd List.mem_cons_self noReturn
  | case4 c rest notFeed _ none ih =>
      rw [List.mem_cons, not_or] at noReturn
      rw [List.splitOn_cons_eq_if_modifyHead, if_neg (by simpa using notFeed)]
      rcases ih noReturn.2 with same | longer
      · rw [none] at same
        exact absurd same (List.splitOn_ne_nil '\n' rest)
      · rw [longer, none]
        exact .inl rfl
  | case5 c rest notFeed _ first others restLines ih =>
      rw [List.mem_cons, not_or] at noReturn
      rw [List.splitOn_cons_eq_if_modifyHead, if_neg (by simpa using notFeed)]
      rcases ih noReturn.2 with same | longer
      · rw [same, restLines]
        exact .inl rfl
      · rw [longer, restLines]
        exact .inr rfl

theorem blockValue_eq {inside first : Text} {rest : List Text} (noReturn : '\r' ∉ inside)
    (pieces : inside.splitOn '\n' = first :: rest) :
    blockValue inside = joinLines (trimBlankLines (first :: outdentAll rest)) := by
  rcases splitOn_eq_lines noReturn with same | longer
  · rw [blockValue, ← same, pieces]
    rfl
  · rw [blockValue]
    cases linesEq : lines inside with
    | nil =>
        rw [pieces, linesEq] at longer
        cases longer
        rfl
    | cons line more =>
        rw [pieces, linesEq, List.cons_append] at longer
        obtain ⟨rfl, rfl⟩ := List.cons.inj longer
        -- The empty last piece counts neither for the indentation nor as a line.
        have margin : commonIndentation (more ++ [[]]) = commonIndentation more :=
          commonIndentation_congr (by simp [visibleLines, isBlank])
        have outdented : outdentAll (more ++ [[]]) = outdentAll more ++ [[]] := by
          rw [outdentAll, margin, List.map_append, List.map_singleton, outdent_nil]
          rfl
        rw [outdented, ← List.cons_append, trimBlankLines_concat_of_blank rfl]
        rfl

theorem mem_joinLines_of_mem {lines : List Text} {line : Text} (member : line ∈ lines) :
    line ⊆ joinLines lines := by
  induction lines with
  | nil => cases member
  | cons first rest ih =>
      cases rest with
      | nil =>
          rw [List.mem_singleton.mp member, joinLines_singleton]
          exact List.Subset.refl first
      | cons second rest =>
          rw [joinLines_cons_cons]
          rcases List.mem_cons.mp member with rfl | later
          · exact List.subset_append_left _ _
          · exact fun c among =>
              List.mem_append_right _ (List.mem_cons_of_mem _ (ih later among))

structure VisibleEnds (lines : List Text) : Prop where
  first : ∃ line, lines.head? = some line ∧ isBlank line = false
  last : ∃ line, lines.getLast? = some line ∧ isBlank line = false

section

variable {inside first : Text} {rest : List Text} (noReturn : '\r' ∉ inside)
  (pieces : inside.splitOn '\n' = first :: rest)

include pieces in
/-- The lines of the value are made of characters of the pieces. -/
theorem exists_piece {line : Text} (member : line ∈ trimBlankLines (first :: outdentAll rest)) :
    ∃ piece ∈ inside.splitOn '\n', line ⊆ piece := by
  rw [pieces]
  rcases List.mem_cons.mp ((trimBlankLines_sublist _).subset member) with rfl | later
  · exact ⟨line, List.mem_cons_self, List.Subset.refl line⟩
  · obtain ⟨piece, among, rfl⟩ := List.mem_map.mp later
    exact ⟨piece, List.mem_cons_of_mem _ among, (outdent_suffix _ piece).subset⟩

include noReturn pieces

/-- The value is empty, or its lines are the pieces without their indentation and without the blank ones
at both ends. -/
theorem splitOn_blockValue :
    blockValue inside = [] ∧ trimBlankLines (first :: outdentAll rest) = [] ∨
      (blockValue inside).splitOn '\n' = trimBlankLines (first :: outdentAll rest) ∧
        VisibleEnds ((blockValue inside).splitOn '\n') := by
  rw [blockValue_eq noReturn pieces]
  by_cases empty : trimBlankLines (first :: outdentAll rest) = []
  · exact .inl ⟨by rw [empty]; rfl, empty⟩
  · have noFeed : ∀ line ∈ trimBlankLines (first :: outdentAll rest), '\n' ∉ line := by
      intro line member feed
      obtain ⟨piece, among, inPiece⟩ := exists_piece pieces member
      exact not_mem_of_mem_splitOn inside piece among (inPiece feed)
    obtain ⟨front, back⟩ := trimBlankLines_ends _ empty
    rw [splitOn_joinLines noFeed empty]
    exact .inr ⟨rfl, front, back⟩

theorem visibleLines_blockValue :
    visibleLines ((blockValue inside).splitOn '\n') =
      visibleLines [first] ++ (visibleLines rest).map (List.drop (commonIndentation rest)) := by
  have whole : visibleLines (trimBlankLines (first :: outdentAll rest)) =
      visibleLines [first] ++ (visibleLines rest).map (List.drop (commonIndentation rest)) := by
    rw [visibleLines_trimBlankLines, ← visibleLines_outdentAll, ← List.singleton_append]
    exact List.filter_append [first] (outdentAll rest)
  rw [← whole]
  rcases splitOn_blockValue noReturn pieces with ⟨empty, none⟩ | ⟨same, -⟩
  · rw [empty, none]
    rfl
  · rw [same]

/-- The last of several lines of the value comes from a visible line behind the first. -/
theorem exists_visible_later (feed : '\n' ∈ blockValue inside) :
    ∃ line ∈ rest, isBlank line = false := by
  rcases splitOn_blockValue noReturn pieces with ⟨empty, -⟩ | ⟨same, ends⟩
  · rw [empty] at feed
    cases feed
  · have several := mem_joinLines_iff (not_mem_of_mem_splitOn (blockValue inside))
    rw [joinLines_splitOn] at several
    have length := several.mp feed
    obtain ⟨last, atLast, visible⟩ := ends.last
    have kept := trimBlankLines_sublist (first :: outdentAll rest)
    rw [← same] at kept
    match linesEq : (blockValue inside).splitOn '\n' with
    | [] => simp [linesEq] at length
    | [_] => simp [linesEq] at length
    | _ :: second :: more =>
        rw [linesEq] at atLast kept
        rw [List.getLast?_cons_cons] at atLast
        obtain ⟨line, among, rfl⟩ :=
          List.mem_map.mp (kept.tail.subset (List.mem_of_getLast? atLast))
        rw [isBlank_outdent rest line among] at visible
        exact ⟨line, among, visible⟩

theorem exists_flush_line (feed : '\n' ∈ blockValue inside) :
    ∃ line ∈ (blockValue inside).splitOn '\n',
      isBlank line = false ∧ line.head? ≠ some ' ' ∧ line.head? ≠ some '\t' := by
  have later := exists_visible_later noReturn pieces feed
  obtain ⟨shallow, member, visible, isCommon⟩ := exists_indentation_eq later
  have said : shallow.drop (commonIndentation rest) ∈
      visibleLines ((blockValue inside).splitOn '\n') := by
    rw [visibleLines_blockValue noReturn pieces]
    exact List.mem_append_right _ (List.mem_map_of_mem (mem_visibleLines.mpr ⟨member, visible⟩))
  obtain ⟨among, notBlank⟩ := mem_visibleLines.mp said
  refine ⟨_, among, notBlank, (indentation_eq_zero_iff _).mp ?_⟩
  rw [indentation_drop (Nat.le_of_eq isCommon.symm), isCommon, Nat.sub_self]

theorem standFlush_blockValue (feed : '\n' ∈ blockValue inside) :
    StandFlush ((blockValue inside).splitOn '\n') := by
  rcases splitOn_blockValue noReturn pieces with ⟨empty, -⟩ | ⟨same, ends⟩
  · rw [empty] at feed
    cases feed
  · refine ⟨ends.first, ends.last, exists_flush_line noReturn pieces feed, ?_⟩
    intro line member returns
    rw [same] at member
    obtain ⟨piece, among, inPiece⟩ := exists_piece pieces member
    have inInside := mem_joinLines_of_mem among (inPiece (List.mem_of_getLast? returns))
    rw [joinLines_splitOn] at inInside
    exact noReturn inInside

end

theorem settled_blockValue {inside : Text} (noReturn : '\r' ∉ inside) :
    settled (blockValue inside) = blockValue inside := by
  obtain ⟨first, rest, pieces⟩ := List.exists_cons_of_ne_nil (List.splitOn_ne_nil '\n' inside)
  by_cases feed : '\n' ∈ blockValue inside
  · exact (settled_eq_self_iff feed).mpr (standFlush_blockValue noReturn pieces feed)
  · exact settled_of_not_mem feed

end SdlWorkbench.Text
