import SdlWorkbench.Text.Block
import Mathlib.Data.List.Forall2
/-!
Lines and the pieces between line feeds.

`Text.lines` takes one carriage return off every line that a line feed ends and knows no empty last
line; `List.splitOn` does neither.  This module says how the two are related when a text is put
together from its pieces with `joinLines`.
-/

namespace SdlWorkbench.Text

/-- A line without the one carriage return that belongs to its end. -/
def dropReturn (line : Text) : Text :=
  if line.getLast? = some '\r' then line.dropLast else line

theorem dropReturn_of_getLast?_ne {line : Text} (noReturn : line.getLast? ≠ some '\r') :
    dropReturn line = line :=
  if_neg noReturn

theorem dropReturn_length_le (line : Text) : (dropReturn line).length ≤ line.length := by
  unfold dropReturn
  split
  · simp
  · exact Nat.le_refl _

theorem dropReturn_length_lt {line : Text} (returns : line.getLast? = some '\r') :
    (dropReturn line).length < line.length := by
  have nonempty : line ≠ [] := by
    rintro rfl
    simp at returns
  have positive := List.length_pos_iff.mpr nonempty
  rw [dropReturn, if_pos returns, List.length_dropLast]
  omega

theorem dropReturn_isPrefix (line : Text) : dropReturn line <+: line := by
  unfold dropReturn
  split
  · exact List.dropLast_prefix line
  · exact List.prefix_rfl

theorem dropReturn_cons_cons (c d : Char) (rest : Text) :
    dropReturn (c :: d :: rest) = c :: dropReturn (d :: rest) := by
  simp only [dropReturn, List.getLast?_cons_cons, List.dropLast_cons_cons]
  split <;> rfl

theorem dropReturn_append (front : Text) {line : Text} (nonempty : line ≠ []) :
    dropReturn (front ++ line) = front ++ dropReturn line := by
  unfold dropReturn
  rw [List.getLast?_append_of_ne_nil front nonempty, List.dropLast_append_of_ne_nil nonempty]
  split <;> rfl

theorem lines_newline (rest : Text) : lines ('\n' :: rest) = [] :: lines rest := by
  rw [lines]

theorem lines_cons {c : Char} {rest line : Text} {more : List Text} (notFeed : c ≠ '\n')
    (notReturn : c = '\r' → rest.head? ≠ some '\n') (restLines : lines rest = line :: more) :
    lines (c :: rest) = (c :: line) :: more := by
  rw [lines.eq_4]
  · rw [restLines]
  · exact notFeed
  · intro after isReturn startsFeed
    subst startsFeed
    exact notReturn isReturn rfl

/-- The text up to a line feed is a line, less its carriage return. -/
theorem lines_append_newline {line : Text} (noFeed : '\n' ∉ line) (rest : Text) :
    lines (line ++ '\n' :: rest) = dropReturn line :: lines rest := by
  induction line with
  | nil => exact lines_newline rest
  | cons c line ih =>
      have notFeed : c ≠ '\n' := fun isFeed => noFeed (isFeed ▸ List.mem_cons_self)
      have tailFree : '\n' ∉ line := fun member => noFeed (List.mem_cons_of_mem c member)
      cases line with
      | nil =>
          by_cases isReturn : c = '\r'
          · subst isReturn
            rw [List.cons_append, List.nil_append, lines]
            rfl
          · rw [List.cons_append, List.nil_append,
              lines_cons notFeed (fun same => absurd same isReturn) (lines_newline rest),
              dropReturn_of_getLast?_ne (by simpa using isReturn)]
      | cons d line =>
          have inner : d ≠ '\n' := fun isFeed => tailFree (isFeed ▸ List.mem_cons_self)
          rw [List.cons_append, lines_cons notFeed _ (ih tailFree), dropReturn_cons_cons]
          intro _
          simpa using inner

/-- A text without a line feed is one line, carriage returns included. -/
theorem lines_of_not_mem {text : Text} (noFeed : '\n' ∉ text) (nonempty : text ≠ []) :
    lines text = [text] := by
  induction text with
  | nil => contradiction
  | cons c text ih =>
      have notFeed : c ≠ '\n' := fun isFeed => noFeed (isFeed ▸ List.mem_cons_self)
      have tailFree : '\n' ∉ text := fun member => noFeed (List.mem_cons_of_mem c member)
      cases text with
      | nil =>
          rw [lines.eq_4 _ _ notFeed (fun _ _ impossible => by cases impossible)]
          rfl
      | cons d text =>
          have inner : d ≠ '\n' := fun isFeed => tailFree (isFeed ▸ List.mem_cons_self)
          exact lines_cons notFeed (fun _ => by simpa using inner) (ih tailFree (by simp))

theorem intercalate_map_cons {α : Type} (separator : Text) (text : α → Text) (first : α)
    (rest : List α) :
    separator.intercalate ((first :: rest).map text) =
      text first ++ rest.flatMap fun item => separator ++ text item := by
  induction rest generalizing first with
  | nil => simp
  | cons second more ih =>
      rw [List.map_cons, List.map_cons, List.intercalate_cons_cons, ← List.map_cons, ih]
      simp

theorem joinLines_singleton (line : Text) : joinLines [line] = line := by
  simp [joinLines]

theorem joinLines_cons_cons (first second : Text) (rest : List Text) :
    joinLines (first :: second :: rest) = first ++ '\n' :: joinLines (second :: rest) := by
  simp [joinLines]

theorem joinLines_splitOn (text : Text) : joinLines (text.splitOn '\n') = text :=
  List.intercalate_splitOn '\n'

/-- Lines that hold no line feed can be told apart in the joined text. -/
theorem splitOn_joinLines {lines : List Text} (noFeed : ∀ line ∈ lines, '\n' ∉ line)
    (nonempty : lines ≠ []) : (joinLines lines).splitOn '\n' = lines :=
  List.splitOn_intercalate '\n' noFeed nonempty

theorem not_mem_of_mem_splitOn (text : Text) :
    ∀ piece ∈ text.splitOn '\n', '\n' ∉ piece := by
  induction text with
  | nil => simp
  | cons c text ih =>
      rw [List.splitOn_cons_eq_if_modifyHead]
      split
      · simpa using ih
      · next different =>
          cases pieces : text.splitOn '\n' with
          | nil => simp
          | cons first more =>
              rw [pieces] at ih
              have notFeed : c ≠ '\n' := by simpa using different
              intro piece member
              rcases List.mem_cons.mp member with isFirst | later
              · subst isFirst
                intro feed
                rcases List.mem_cons.mp feed with isHead | inFirst
                · exact notFeed isHead.symm
                · exact ih first List.mem_cons_self inFirst
              · exact ih piece (List.mem_cons_of_mem first later)

theorem mem_joinLines_iff {lines : List Text} (noFeed : ∀ line ∈ lines, '\n' ∉ line) :
    '\n' ∈ joinLines lines ↔ 2 ≤ lines.length := by
  match lines with
  | [] => simp [joinLines]
  | [line] =>
      rw [joinLines_singleton]
      simpa using noFeed line List.mem_cons_self
  | first :: second :: rest =>
      rw [joinLines_cons_cons]
      simp

/-- Every line of a joined text is the line that was joined, or that line without its carriage
return, as long as the last of the joined lines is not empty. -/
theorem lines_joinLines {lines : List Text} (noFeed : ∀ line ∈ lines, '\n' ∉ line)
    (lastNonempty : lines.getLast? ≠ some []) :
    List.Forall₂ (fun line joined => line = joined ∨ line = dropReturn joined)
      (Text.lines (joinLines lines)) lines := by
  induction lines with
  | nil => exact List.Forall₂.nil
  | cons first rest ih =>
      have firstFree := noFeed first List.mem_cons_self
      cases rest with
      | nil =>
          have nonempty : first ≠ [] := by simpa using lastNonempty
          rw [joinLines_singleton, lines_of_not_mem firstFree nonempty]
          exact List.Forall₂.cons (Or.inl rfl) List.Forall₂.nil
      | cons second rest =>
          rw [joinLines_cons_cons, lines_append_newline firstFree]
          refine List.Forall₂.cons (Or.inr rfl) (ih ?_ ?_)
          · exact fun line member => noFeed line (List.mem_cons_of_mem first member)
          · rwa [List.getLast?_cons_cons] at lastNonempty

theorem lines_joinLines_eq {lines : List Text} (noFeed : ∀ line ∈ lines, '\n' ∉ line)
    (lastNonempty : lines.getLast? ≠ some [])
    (noReturn : ∀ line ∈ lines, line.getLast? ≠ some '\r') :
    Text.lines (joinLines lines) = lines := by
  have related := lines_joinLines noFeed lastNonempty
  refine List.ext_get related.length_eq fun index inLines inJoined => ?_
  rcases related.get inLines inJoined with same | dropped
  · exact same
  · rw [dropped, dropReturn_of_getLast?_ne (noReturn _ (List.get_mem _ _))]

theorem getLast?_joinLines {lines : List Text} {last : Text} (atLast : lines.getLast? = some last)
    (nonempty : last ≠ []) : (joinLines lines).getLast? = last.getLast? := by
  induction lines with
  | nil => cases atLast
  | cons first rest ih =>
      cases rest with
      | nil =>
          rw [List.getLast?_singleton, Option.some_inj] at atLast
          rw [joinLines_singleton, atLast]
      | cons second rest =>
          have later := ih (by rwa [List.getLast?_cons_cons] at atLast)
          have joinedNonempty : joinLines (second :: rest) ≠ [] := by
            intro empty
            rw [empty, List.getLast?_nil] at later
            exact nonempty (List.getLast?_eq_none_iff.mp later.symm)
          rw [joinLines_cons_cons, List.append_cons,
            List.getLast?_append_of_ne_nil _ joinedNonempty, later]

private theorem infix_append_cons {part front back : Text} {c : Char} (absent : c ∉ part)
    (inside : part <:+: front ++ c :: back) : part <:+: front ∨ part <:+: back := by
  obtain ⟨before, after, whole⟩ := inside
  rcases List.append_eq_append_iff.mp whole with ⟨more, frontEq, _⟩ | ⟨more, partEnd, backEq⟩
  · exact Or.inl ⟨before, more, frontEq.symm⟩
  · cases more with
    | nil => exact Or.inl ⟨before, [], by simpa using partEnd⟩
    | cons d more =>
        rw [List.cons_append, List.cons.injEq] at backEq
        obtain ⟨rfl, rfl⟩ := backEq
        rcases List.append_eq_append_iff.mp partEnd with ⟨gap, _, partEq⟩ | ⟨gap, _, restEq⟩
        · exact absurd (partEq ▸ List.mem_append_right gap List.mem_cons_self) absent
        · cases gap with
          | nil =>
              rw [List.nil_append] at restEq
              exact absurd (restEq ▸ List.mem_cons_self) absent
          | cons e gap =>
              rw [List.cons_append, List.cons.injEq] at restEq
              exact Or.inr ⟨gap, after, by rw [restEq.2]⟩

/-- What occurs in a joined text and spans no line feed occurs in one of the lines. -/
theorem exists_infix_of_infix_joinLines {part : Text} {lines : List Text}
    (noFeed : '\n' ∉ part) (nonempty : part ≠ []) (inside : part <:+: joinLines lines) :
    ∃ line ∈ lines, part <:+: line := by
  induction lines with
  | nil => exact absurd (List.infix_nil.mp (by simpa [joinLines] using inside)) nonempty
  | cons first rest ih =>
      cases rest with
      | nil =>
          rw [joinLines_singleton] at inside
          exact ⟨first, List.mem_cons_self, inside⟩
      | cons second rest =>
          rw [joinLines_cons_cons] at inside
          rcases infix_append_cons noFeed inside with inFirst | later
          · exact ⟨first, List.mem_cons_self, inFirst⟩
          · obtain ⟨line, member, found⟩ := ih later
            exact ⟨line, List.mem_cons_of_mem first member, found⟩

theorem not_mem_of_mem_lines {text line : Text} (member : line ∈ lines text) : '\n' ∉ line := by
  fun_induction lines text generalizing line with
  | case1 => cases member
  | case2 rest ih =>
      rcases List.mem_cons.mp member with rfl | later
      · exact List.not_mem_nil
      · exact ih later
  | case3 rest ih =>
      rcases List.mem_cons.mp member with rfl | later
      · exact List.not_mem_nil
      · exact ih later
  | case4 c rest notFeed _ restLines _ =>
      rw [List.mem_singleton.mp member]
      simpa using Ne.symm notFeed
  | case5 c rest notFeed _ first others restLines ih =>
      rw [restLines] at ih
      rcases List.mem_cons.mp member with rfl | later
      · rw [List.mem_cons, not_or]
        exact ⟨Ne.symm notFeed, ih List.mem_cons_self⟩
      · exact ih (List.mem_cons_of_mem first later)

theorem prefix_of_lines_eq_cons {text line : Text} {more : List Text}
    (textLines : lines text = line :: more) : line <+: text := by
  fun_induction lines text generalizing line more with
  | case1 => cases textLines
  | case2 rest _ =>
      cases textLines
      exact List.nil_prefix
  | case3 rest _ =>
      cases textLines
      exact List.nil_prefix
  | case4 c rest _ _ restLines _ =>
      cases textLines
      exact List.cons_prefix_cons.mpr ⟨rfl, List.nil_prefix⟩
  | case5 c rest _ _ first others restLines ih =>
      cases textLines
      exact List.cons_prefix_cons.mpr ⟨rfl, ih restLines⟩

theorem infix_of_mem_lines {text line : Text} (member : line ∈ lines text) : line <:+: text := by
  fun_induction lines text with
  | case1 => cases member
  | case2 rest ih =>
      rcases List.mem_cons.mp member with rfl | later
      · exact List.nil_infix
      · exact List.infix_cons (ih later)
  | case3 rest ih =>
      rcases List.mem_cons.mp member with rfl | later
      · exact List.nil_infix
      · exact List.infix_cons (List.infix_cons (ih later))
  | case4 c rest _ _ restLines _ =>
      rw [List.mem_singleton.mp member]
      exact (List.cons_prefix_cons.mpr ⟨rfl, List.nil_prefix⟩).isInfix
  | case5 c rest _ _ first others restLines ih =>
      rcases List.mem_cons.mp member with rfl | later
      · have front := prefix_of_lines_eq_cons restLines
        exact (List.cons_prefix_cons.mpr ⟨rfl, front⟩).isInfix
      · exact List.infix_cons (ih (restLines ▸ List.mem_cons_of_mem first later))

end SdlWorkbench.Text
