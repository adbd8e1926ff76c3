import SdlWorkbench.Proofs.Text.Lines
import Mathlib.Data.List.DropRight
/-!
What becomes of the lines of a description.

Writing lines into a block string and reading the block again takes carriage returns, common
indentation and outer blank lines away.  `settledLines` is what is left, and it does not depend on the
indentation that the block was written at.  Lines that `StandFlush` are exactly those that are left
as they are.
-/

namespace SdlWorkbench.Text

def outdentAll (lines : List Text) : List Text :=
  lines.map (outdent (commonIndentation lines))

/-- The lines of the block string in which the given lines were written. -/
def settledLines (lines : List Text) : List Text :=
  trimBlankLines (outdentAll (lines.map dropReturn))

/-- The description that a written description reads back as. -/
def settled (text : Text) : Text :=
  if '\n' ∈ text then joinLines (settledLines (lines text)) else text

/-- Lines that a block string gives back unchanged. -/
structure StandFlush (lines : List Text) : Prop where
  firstNotBlank : ∃ line, lines.head? = some line ∧ isBlank line = false
  lastNotBlank : ∃ line, lines.getLast? = some line ∧ isBlank line = false
  flush : ∃ line ∈ lines,
    isBlank line = false ∧ line.head? ≠ some ' ' ∧ line.head? ≠ some '\t'
  noReturn : ∀ line ∈ lines, line.getLast? ≠ some '\r'

theorem trimBlankLines_cons_of_blank {line : Text} (blank : isBlank line = true)
    (lines : List Text) : trimBlankLines (line :: lines) = trimBlankLines lines := by
  simp only [trimBlankLines, List.dropWhile_cons, blank, if_true]

theorem trimBlankLines_eq_nil {lines : List Text} (blank : ∀ line ∈ lines, isBlank line = true) :
    trimBlankLines lines = [] := by
  rw [trimBlankLines, List.dropWhile_eq_nil_iff.mpr blank]
  rfl

theorem trimBlankLines_concat_of_blank {line : Text} (blank : isBlank line = true)
    (lines : List Text) : trimBlankLines (lines ++ [line]) = trimBlankLines lines := by
  by_cases allBlank : ∀ other ∈ lines, isBlank other = true
  · rw [trimBlankLines_eq_nil allBlank, trimBlankLines_eq_nil]
    intro other member
    rcases List.mem_append.mp member with before | atEnd
    · exact allBlank other before
    · exact List.mem_singleton.mp atEnd ▸ blank
  · have stops : lines.dropWhile isBlank ≠ [] := by
      rwa [Ne, List.dropWhile_eq_nil_iff]
    have dropped : (lines ++ [line]).dropWhile isBlank = lines.dropWhile isBlank ++ [line] := by
      rw [List.dropWhile_append, if_neg (by simpa using stops)]
    rw [trimBlankLines, dropped]
    exact List.rdropWhile_concat_pos isBlank _ line blank

theorem trimBlankLines_sublist (lines : List Text) : (trimBlankLines lines).Sublist lines :=
  (List.rdropWhile_prefix isBlank _).sublist.trans (List.dropWhile_sublist isBlank)

theorem trimBlankLines_eq_self {lines : List Text}
    (firstNotBlank : ∃ line, lines.head? = some line ∧ isBlank line = false)
    (lastNotBlank : ∃ line, lines.getLast? = some line ∧ isBlank line = false) :
    trimBlankLines lines = lines := by
  obtain ⟨first, atHead, firstVisible⟩ := firstNotBlank
  obtain ⟨last, atLast, lastVisible⟩ := lastNotBlank
  have keepsFront : lines.dropWhile isBlank = lines := by
    cases lines with
    | nil => rfl
    | cons line rest =>
        cases atHead
        rw [List.dropWhile_cons, if_neg (by simp [firstVisible])]
  rw [trimBlankLines, keepsFront]
  refine List.rdropWhile_eq_self_iff.mpr fun nonempty => ?_
  rw [List.getLast?_eq_some_getLast nonempty, Option.some_inj] at atLast
  simp [atLast, lastVisible]

theorem trimBlankLines_ends (lines : List Text) (nonempty : trimBlankLines lines ≠ []) :
    (∃ line, (trimBlankLines lines).head? = some line ∧ isBlank line = false) ∧
      ∃ line, (trimBlankLines lines).getLast? = some line ∧ isBlank line = false := by
  have front : trimBlankLines lines <+: lines.dropWhile isBlank :=
    List.rdropWhile_prefix isBlank _
  constructor
  · refine ⟨_, List.head?_eq_some_head nonempty, ?_⟩
    rw [List.IsPrefix.head front nonempty]
    exact List.head_dropWhile_not isBlank _
  · refine ⟨_, List.getLast?_eq_some_getLast nonempty, ?_⟩
    exact Bool.eq_false_iff.mpr (List.rdropWhile_last_not isBlank _ nonempty)

theorem getLast?_ne_of_visible {lines : List Text}
    (lastNotBlank : ∃ line, lines.getLast? = some line ∧ isBlank line = false) :
    lines.getLast? ≠ some [] := by
  obtain ⟨last, atLast, lastVisible⟩ := lastNotBlank
  rw [atLast]
  rintro ⟨⟩
  simp [isBlank] at lastVisible

theorem commonIndentation_of_blank {lines : List Text}
    (blank : ∀ line ∈ lines, isBlank line = true) : commonIndentation lines = 0 := by
  have nothing : lines.filter (fun line => !isBlank line) = [] := by
    simpa using blank
  rw [commonIndentation, nothing]
  rfl

theorem exists_indentation_eq {lines : List Text}
    (visible : ∃ line ∈ lines, isBlank line = false) :
    ∃ line ∈ lines, isBlank line = false ∧ indentation line = commonIndentation lines := by
  obtain ⟨line, member, notBlank⟩ := visible
  cases least : ((lines.filter fun line => !isBlank line).map indentation).min? with
  | none =>
      rw [List.min?_eq_none_iff, List.map_eq_nil_iff, List.filter_eq_nil_iff] at least
      exact absurd (by simp [notBlank]) (least line member)
  | some width =>
      obtain ⟨found, _⟩ := List.min?_eq_some_iff.mp least
      obtain ⟨shallow, kept, isWidth⟩ := List.mem_map.mp found
      rw [List.mem_filter] at kept
      refine ⟨shallow, kept.1, by simpa using kept.2, ?_⟩
      rw [commonIndentation, least, isWidth]
      rfl

theorem commonIndentation_le {lines : List Text} {line : Text} (member : line ∈ lines)
    (notBlank : isBlank line = false) : commonIndentation lines ≤ indentation line := by
  cases least : ((lines.filter fun line => !isBlank line).map indentation).min? with
  | none =>
      rw [commonIndentation, least]
      exact Nat.zero_le _
  | some width =>
      rw [commonIndentation, least]
      refine (List.min?_eq_some_iff.mp least).2 _ (List.mem_map_of_mem ?_)
      exact List.mem_filter.mpr ⟨member, by simp [notBlank]⟩

theorem commonIndentation_eq {lines : List Text} {width : Nat}
    (attained : ∃ line ∈ lines, isBlank line = false ∧ indentation line = width)
    (least : ∀ line ∈ lines, isBlank line = false → width ≤ indentation line) :
    commonIndentation lines = width := by
  obtain ⟨line, member, notBlank, isWidth⟩ := attained
  obtain ⟨shallow, shallowMember, shallowVisible, isCommon⟩ :=
    exists_indentation_eq ⟨line, member, notBlank⟩
  have upper := commonIndentation_le member notBlank
  have lower := least shallow shallowMember shallowVisible
  omega

theorem indentation_eq_zero_iff (line : Text) :
    indentation line = 0 ↔ line.head? ≠ some ' ' ∧ line.head? ≠ some '\t' := by
  cases line with
  | nil => simp [indentation]
  | cons c rest => simp [indentation, List.takeWhile_cons]

/-- Nothing is taken from the lines when a line with something on it starts at the margin. -/
theorem commonIndentation_eq_zero_iff {lines : List Text}
    (visible : ∃ line ∈ lines, isBlank line = false) :
    commonIndentation lines = 0 ↔ ∃ line ∈ lines,
      isBlank line = false ∧ line.head? ≠ some ' ' ∧ line.head? ≠ some '\t' := by
  constructor
  · intro margin
    obtain ⟨line, member, notBlank, width⟩ := exists_indentation_eq visible
    refine ⟨line, member, notBlank, (indentation_eq_zero_iff line).mp ?_⟩
    rw [width, margin]
  · rintro ⟨line, member, notBlank, atMargin⟩
    have bound := commonIndentation_le member notBlank
    rw [(indentation_eq_zero_iff line).mpr atMargin] at bound
    exact Nat.le_zero.mp bound

theorem outdent_zero (line : Text) : outdent 0 line = line := by
  simp [outdent, dropBytes?]

theorem outdent_nil (width : Nat) : outdent width [] = [] := by
  cases width <;> rfl

theorem dropBytes?_suffix {count : Nat} {text rest : Text}
    (dropped : dropBytes? count text = some rest) : rest <:+ text := by
  fun_induction dropBytes? count text with
  | case1 text =>
      cases dropped
      exact List.suffix_rfl
  | case2 => cases dropped
  | case3 count c text _ ih => exact (ih dropped).trans (List.suffix_cons c text)
  | case4 => cases dropped

theorem outdent_suffix (width : Nat) (line : Text) : outdent width line <:+ line := by
  unfold outdent
  cases dropped : dropBytes? width line with
  | none => exact List.nil_suffix
  | some rest => exact dropBytes?_suffix dropped

theorem outdent_length_le (width : Nat) (line : Text) :
    (outdent width line).length ≤ line.length :=
  (outdent_suffix width line).length_le

theorem outdent_length_lt {width : Nat} {line : Text} (positive : 0 < width)
    (nonempty : line ≠ []) : (outdent width line).length < line.length := by
  obtain ⟨count, rfl⟩ := Nat.exists_eq_add_of_lt positive
  cases line with
  | nil => contradiction
  | cons c rest =>
      simp only [outdent, Nat.zero_add, dropBytes?]
      split
      · exact Nat.lt_succ_of_le (outdent_length_le _ rest)
      · simp

theorem isBlank_spaces (width : Nat) : isBlank (List.replicate width ' ') = true := by
  rw [isBlank, List.all_eq_true]
  intro c member
  rw [List.eq_of_mem_replicate member]
  rfl

theorem isBlank_spaces_append (width : Nat) (line : Text) :
    isBlank (List.replicate width ' ' ++ line) = isBlank line := by
  have spaces := isBlank_spaces width
  rw [isBlank] at spaces
  rw [isBlank, List.all_append, spaces, Bool.true_and, isBlank]

theorem indentation_spaces_append (width : Nat) (line : Text) :
    indentation (List.replicate width ' ' ++ line) = width + indentation line := by
  have spaces : ∀ c ∈ List.replicate width ' ', (c = ' ' || c = '\t') = true := by
    intro c member
    rw [List.eq_of_mem_replicate member]
    rfl
  rw [indentation, List.takeWhile_append_of_pos spaces, List.length_append, List.length_replicate,
    indentation]

theorem outdent_spaces_append (width more : Nat) (line : Text) :
    outdent (width + more) (List.replicate width ' ' ++ line) = outdent more line := by
  induction width with
  | zero => simp
  | succ width ih =>
      have oneByte : (' ' : Char).utf8Size = 1 := rfl
      have shift : width + 1 + more = (width + more) + 1 := by omega
      rw [List.replicate_succ, List.cons_append, shift]
      simp only [outdent, dropBytes?, oneByte, Nat.le_add_left, if_true,
        Nat.add_sub_cancel] at ih ⊢
      exact ih

theorem lines_spaces (width : Nat) :
    lines (List.replicate width ' ') = if width = 0 then [] else [List.replicate width ' '] := by
  cases width with
  | zero => rfl
  | succ width =>
      have noFeed : '\n' ∉ List.replicate (width + 1) ' ' := by simp
      exact lines_of_not_mem noFeed (by simp)

theorem settledLines_of_blank {lines : List Text}
    (blank : ∀ line ∈ lines.map dropReturn, isBlank line = true) : settledLines lines = [] := by
  have margin : outdentAll (lines.map dropReturn) = lines.map dropReturn := by
    rw [outdentAll, commonIndentation_of_blank blank]
    exact List.map_id'' outdent_zero _
  rw [settledLines, margin, trimBlankLines_eq_nil blank]

theorem StandFlush.settledLines_eq {lines : List Text} (standing : StandFlush lines) :
    settledLines lines = lines := by
  have noReturns : lines.map dropReturn = lines :=
    (List.map_congr_left fun line member =>
      dropReturn_of_getLast?_ne (standing.noReturn line member)).trans (List.map_id lines)
  obtain ⟨line, member, notBlank, atMargin⟩ := standing.flush
  have margin : commonIndentation lines = 0 :=
    (commonIndentation_eq_zero_iff ⟨line, member, notBlank⟩).mpr ⟨line, member, notBlank, atMargin⟩
  have inPlace : outdentAll lines = lines := by
    rw [outdentAll, margin]
    exact List.map_id'' outdent_zero _
  rw [settledLines, noReturns, inPlace]
  exact trimBlankLines_eq_self standing.firstNotBlank standing.lastNotBlank

private theorem settledLines_eq_map {lines : List Text}
    (sameLength : (settledLines lines).length = lines.length) :
    settledLines lines =
      lines.map fun line => outdent (commonIndentation (lines.map dropReturn)) (dropReturn line) := by
  have whole := (trimBlankLines_sublist (outdentAll (lines.map dropReturn))).eq_of_length
    (by simpa [outdentAll, settledLines] using sameLength)
  rw [settledLines, whole, outdentAll, List.map_map]
  rfl

private theorem outdent_dropReturn_length_le (width : Nat) (line : Text) :
    (outdent width (dropReturn line)).length ≤ line.length :=
  Nat.le_trans (outdent_length_le width _) (dropReturn_length_le line)

theorem standFlush_of_settledLines_eq {lines : List Text} (nonempty : lines ≠ [])
    (settledEq : settledLines lines = lines) : StandFlush lines := by
  have ends := trimBlankLines_ends (outdentAll (lines.map dropReturn)) (by
    rwa [← settledLines, settledEq])
  rw [← settledLines, settledEq] at ends
  have eachEq : ∀ line ∈ lines,
      outdent (commonIndentation (lines.map dropReturn)) (dropReturn line) = line := by
    have mapped := settledLines_eq_map (congrArg List.length settledEq)
    rw [settledEq] at mapped
    exact fun line member => List.map_eq_map_iff.mp
      (mapped.symm.trans (List.map_id lines).symm) line member
  have noReturn : ∀ line ∈ lines, line.getLast? ≠ some '\r' := by
    intro line member returns
    have shorter := dropReturn_length_lt returns
    have bound := outdent_length_le (commonIndentation (lines.map dropReturn)) (dropReturn line)
    rw [eachEq line member] at bound
    omega
  have noReturns : lines.map dropReturn = lines :=
    (List.map_congr_left fun line member =>
      dropReturn_of_getLast?_ne (noReturn line member)).trans (List.map_id lines)
  rw [noReturns] at eachEq
  obtain ⟨first, atHead, firstVisible⟩ := ends.1
  have firstMember : first ∈ lines := List.mem_of_head? atHead
  have margin : commonIndentation lines = 0 := by
    by_contra indented
    have firstNonempty : dropReturn first ≠ [] := by
      rw [dropReturn_of_getLast?_ne (noReturn first firstMember)]
      rintro rfl
      simp [isBlank] at firstVisible
    have shorter := outdent_length_lt (Nat.pos_of_ne_zero indented) firstNonempty
    rw [eachEq first firstMember] at shorter
    exact absurd (dropReturn_length_le first) (Nat.not_le_of_lt shorter)
  exact {
    firstNotBlank := ends.1
    lastNotBlank := ends.2
    flush := (commonIndentation_eq_zero_iff ⟨first, firstMember, firstVisible⟩).mp margin
    noReturn := noReturn }

/-- When lines settle to lines that they can be read from, nothing has changed at all. -/
theorem eq_of_settledLines_eq {lines joined : List Text}
    (related : List.Forall₂ (fun line joined => line = joined ∨ line = dropReturn joined)
      lines joined)
    (settledEq : settledLines lines = joined) : lines = joined := by
  have mapped := settledLines_eq_map (by rw [settledEq, related.length_eq])
  rw [settledEq] at mapped
  refine List.ext_get related.length_eq fun index inLines inJoined => ?_
  have placed : joined.get ⟨index, inJoined⟩ =
      outdent (commonIndentation (lines.map dropReturn))
        (dropReturn (lines.get ⟨index, inLines⟩)) := by
    simp [mapped]
  have bound := outdent_dropReturn_length_le (commonIndentation (lines.map dropReturn))
    (lines.get ⟨index, inLines⟩)
  rw [← placed] at bound
  rcases related.get inLines inJoined with same | dropped
  · exact same
  · rw [dropped]
    refine dropReturn_of_getLast?_ne fun returns => ?_
    have shorter := dropReturn_length_lt returns
    rw [dropped] at bound
    omega

theorem settledLines_lines_joinLines_iff {joined : List Text}
    (noFeed : ∀ line ∈ joined, '\n' ∉ line) (nonempty : joined ≠ []) :
    settledLines (lines (joinLines joined)) = joined ↔ StandFlush joined := by
  constructor
  · intro settledEq
    have ends := trimBlankLines_ends (outdentAll ((lines (joinLines joined)).map dropReturn)) (by
      rwa [← settledLines, settledEq])
    rw [← settledLines, settledEq] at ends
    have lastNonempty := getLast?_ne_of_visible ends.2
    have linesEq := eq_of_settledLines_eq (lines_joinLines noFeed lastNonempty) settledEq
    rw [linesEq] at settledEq
    exact standFlush_of_settledLines_eq nonempty settledEq
  · intro standing
    have lastNonempty := getLast?_ne_of_visible standing.lastNotBlank
    rw [lines_joinLines_eq noFeed lastNonempty standing.noReturn]
    exact standing.settledLines_eq

theorem not_mem_of_mem_settledLines {lines : List Text} (noFeed : ∀ line ∈ lines, '\n' ∉ line) :
    ∀ line ∈ settledLines lines, '\n' ∉ line := by
  intro line member feed
  have inAll := (trimBlankLines_sublist _).subset member
  obtain ⟨dropped, inDropped, rfl⟩ := List.mem_map.mp inAll
  obtain ⟨original, inLines, rfl⟩ := List.mem_map.mp inDropped
  refine noFeed original inLines ?_
  exact (dropReturn_isPrefix original).subset ((outdent_suffix _ _).subset feed)

theorem settled_of_not_mem {text : Text} (noFeed : '\n' ∉ text) : settled text = text :=
  if_neg noFeed

theorem settled_of_mem {text : Text} (feed : '\n' ∈ text) :
    settled text = joinLines (settledLines (lines text)) :=
  if_pos feed

/-- A description of several lines is kept exactly when the pieces between its line feeds stand
flush. -/
theorem settled_eq_self_iff {text : Text} (feed : '\n' ∈ text) :
    settled text = text ↔ StandFlush (text.splitOn '\n') := by
  have piecesFree := not_mem_of_mem_splitOn text
  have pieces := settledLines_lines_joinLines_iff piecesFree (List.splitOn_ne_nil '\n' text)
  rw [joinLines_splitOn] at pieces
  rw [settled_of_mem feed, ← pieces]
  constructor
  · intro kept
    have settledNonempty : settledLines (lines text) ≠ [] := by
      intro empty
      rw [empty] at kept
      rw [← kept] at feed
      exact List.not_mem_nil feed
    have settledFree := @not_mem_of_mem_settledLines (lines text) fun line member =>
      not_mem_of_mem_lines member
    rw [← splitOn_joinLines settledFree settledNonempty, kept]
  · intro same
    rw [same, joinLines_splitOn]

end SdlWorkbench.Text
