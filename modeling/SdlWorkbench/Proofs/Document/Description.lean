import SdlWorkbench.Document.Printer
import SdlWorkbench.Proofs.Text.Settled
import SdlWorkbench.Proofs.Token.Lexeme
/-!
Descriptions as tokens.

A description is written as one string token, and which kind of string depends on the text alone.
The token denotes the settled text, so a description is kept exactly when its lines stand flush, and it
is written the same way a second time exactly when it `ReprintsAlike`.
-/

namespace SdlWorkbench

namespace Text

/-- The text between the triple quotes when a description has several lines. -/
def blockInside (indent text : Text) : Text :=
  '\n' :: text.lines.flatMap (renderBlockLine indent) ++ indent

/-- A description of several lines that is written again as it was. -/
structure ReprintsAlike (text : Text) : Prop where
  severalLines : 2 ≤ (lines text).length
  flush : StandFlush (lines text)
  lastUnquoted : ∀ line, (lines text).getLast? = some line → line.getLast? ≠ some '"'

end Text

namespace Lexeme

def ofDescription (indent text : Text) : Lexeme :=
  if '\n' ∈ text then block (Text.blockInside indent text)
  else if '"' ∈ text ∨ '\\' ∈ text then block text
  else string text

end Lexeme

theorem Text.escape_of_plain {text : Text} (noQuote : '"' ∉ text) (noBackslash : '\\' ∉ text) :
    text.escape = text := by
  induction text with
  | nil => rfl
  | cons c rest ih =>
      rw [List.mem_cons, not_or] at noQuote noBackslash
      rw [Text.escape, if_neg, ih noQuote.2 noBackslash.2]
      rintro (isQuote | isBackslash)
      · exact noQuote.1 isQuote.symm
      · exact noBackslash.1 isBackslash.symm

theorem renderDescription_eq (indent text : Text) :
    renderDescription indent text = indent ++ (Lexeme.ofDescription indent text).text ++ ['\n'] := by
  unfold renderDescription Lexeme.ofDescription
  split
  · simp [Lexeme.block, Text.blockInside]
  · split
    · simp [Lexeme.block]
    · next plain =>
        rw [not_or] at plain
        simp [Lexeme.string, Text.escape_of_plain plain.1 plain.2]

namespace Lexeme

theorem block_description? (inside : Text) :
    (block inside).description? = some (Text.blockValue inside) := by
  have inner : ((block inside).text.drop 3).take ((block inside).text.length - 6) = inside := by
    simp [block]
  simp only [description?, inner]
  rfl

theorem string_description? (text : Text) : (string text).description? = some text := by
  have inner : ((string text).text.drop 1).dropLast = text.escape := by
    simp [string]
  simp only [description?, inner, Text.unescape_escape]
  rfl

end Lexeme

namespace Text

private def blockLine (indent line : Text) : Text :=
  if line.isEmpty then [] else indent ++ line

private theorem renderBlockLine_eq (indent line : Text) :
    renderBlockLine indent line = blockLine indent line ++ ['\n'] := rfl

private theorem blockLine_of_ne_nil (indent : Text) {line : Text} (nonempty : line ≠ []) :
    blockLine indent line = indent ++ line :=
  if_neg (by simpa using nonempty)

private theorem not_mem_blockLine {width : Nat} {line : Text} (noFeed : '\n' ∉ line) :
    '\n' ∉ blockLine (List.replicate width ' ') line := by
  unfold blockLine
  split
  · exact List.not_mem_nil
  · rw [List.mem_append, not_or]
    exact ⟨by simp, noFeed⟩

/-- A line as it is read from a block that is indented by `width` spaces. -/
private def readLine (width : Nat) (line : Text) : Text :=
  dropReturn (blockLine (List.replicate width ' ') line)

private theorem lines_blockLines {width : Nat} {lines : List Text}
    (noFeed : ∀ line ∈ lines, '\n' ∉ line) (rest : Text) :
    Text.lines (lines.flatMap (renderBlockLine (List.replicate width ' ')) ++ rest) =
      lines.map (readLine width) ++ Text.lines rest := by
  induction lines with
  | nil => rfl
  | cons first more ih =>
      have firstFree := @not_mem_blockLine width _ (noFeed first List.mem_cons_self)
      rw [List.flatMap_cons, renderBlockLine_eq, List.append_assoc, List.append_assoc,
        List.singleton_append, lines_append_newline firstFree,
        ih fun line member => noFeed line (List.mem_cons_of_mem first member)]
      rfl

/-- A line keeps its place in the block: the spaces before it count as indentation. -/
private theorem readLine_eq (width : Nat) (line : Text) :
    line = [] ∧ readLine width line = [] ∨
      readLine width line = List.replicate width ' ' ++ dropReturn line := by
  by_cases empty : line = []
  · subst empty
    exact Or.inl ⟨rfl, rfl⟩
  · rw [readLine, blockLine_of_ne_nil _ empty, dropReturn_append _ empty]
    exact Or.inr rfl

private theorem isBlank_readLine (width : Nat) (line : Text) :
    isBlank (readLine width line) = isBlank (dropReturn line) := by
  rcases readLine_eq width line with ⟨rfl, empty⟩ | placed
  · rw [empty]
    rfl
  · rw [placed, isBlank_spaces_append]

private theorem indentation_readLine {width : Nat} {line : Text}
    (notBlank : isBlank (dropReturn line) = false) :
    indentation (readLine width line) = width + indentation (dropReturn line) := by
  rcases readLine_eq width line with ⟨rfl, _⟩ | placed
  · cases notBlank
  · rw [placed, indentation_spaces_append]

private theorem outdent_readLine (width more : Nat) (line : Text) :
    outdent (width + more) (readLine width line) = outdent more (dropReturn line) := by
  rcases readLine_eq width line with ⟨rfl, empty⟩ | placed
  · rw [empty, outdent_nil]
    exact (outdent_nil more).symm
  · rw [placed, outdent_spaces_append]

private def lastLine (width : Nat) : List Text :=
  if width = 0 then [] else [List.replicate width ' ']

private theorem isBlank_of_mem_lastLine {width : Nat} {line : Text}
    (member : line ∈ lastLine width) : isBlank line = true := by
  unfold lastLine at member
  split at member
  · cases member
  · rw [List.mem_singleton.mp member]
    exact isBlank_spaces width

private theorem trimBlankLines_lastLine (width more : Nat) (lines : List Text) :
    trimBlankLines (lines ++ (lastLine width).map (outdent (width + more))) =
      trimBlankLines lines := by
  unfold lastLine
  split
  · rw [List.map_nil, List.append_nil]
  · have emptied := outdent_spaces_append width more []
    rw [List.append_nil, outdent_nil] at emptied
    rw [List.map_singleton, emptied]
    exact trimBlankLines_concat_of_blank rfl _

private theorem commonIndentation_readLines {width : Nat} {lines : List Text}
    (visible : ∃ line ∈ lines.map dropReturn, isBlank line = false) :
    commonIndentation (lines.map (readLine width) ++ lastLine width) =
      width + commonIndentation (lines.map dropReturn) := by
  refine commonIndentation_eq ?_ ?_
  · obtain ⟨_, member, notBlank, isCommon⟩ := exists_indentation_eq visible
    obtain ⟨line, inLines, rfl⟩ := List.mem_map.mp member
    refine ⟨_, List.mem_append_left _ (List.mem_map_of_mem inLines), ?_, ?_⟩
    · rw [isBlank_readLine, notBlank]
    · rw [indentation_readLine notBlank, isCommon]
  · intro _ member notBlank
    rcases List.mem_append.mp member with written | last
    · obtain ⟨line, inLines, rfl⟩ := List.mem_map.mp written
      rw [isBlank_readLine] at notBlank
      have dropped : dropReturn line ∈ lines.map dropReturn := List.mem_map_of_mem inLines
      rw [indentation_readLine notBlank]
      exact Nat.add_le_add_left (commonIndentation_le dropped notBlank) width
    · rw [isBlank_of_mem_lastLine last] at notBlank
      cases notBlank

/-- Blank lines and indentation of the block are counted off again, so the lines settle in the same
way whatever the block is indented by. -/
private theorem trim_outdentAll_readLines (width : Nat) (lines : List Text) :
    trimBlankLines (outdentAll (lines.map (readLine width) ++ lastLine width)) =
      settledLines lines := by
  by_cases visible : ∃ line ∈ lines.map dropReturn, isBlank line = false
  · have outdented : (lines.map (readLine width)).map
        (outdent (width + commonIndentation (lines.map dropReturn))) =
          outdentAll (lines.map dropReturn) := by
      rw [outdentAll, List.map_map, List.map_map]
      exact List.map_congr_left fun line _ => outdent_readLine width _ line
    rw [outdentAll, commonIndentation_readLines visible, List.map_append, outdented,
      trimBlankLines_lastLine]
    rfl
  · have linesBlank : ∀ line ∈ lines.map dropReturn, isBlank line = true := by
      intro line member
      by_contra notBlank
      exact visible ⟨line, member, Bool.eq_false_iff.mpr notBlank⟩
    have allBlank : ∀ line ∈ lines.map (readLine width) ++ lastLine width,
        isBlank line = true := by
      intro _ member
      rcases List.mem_append.mp member with written | last
      · obtain ⟨line, inLines, rfl⟩ := List.mem_map.mp written
        rw [isBlank_readLine]
        exact linesBlank _ (List.mem_map_of_mem inLines)
      · exact isBlank_of_mem_lastLine last
    rw [settledLines_of_blank linesBlank, outdentAll, commonIndentation_of_blank allBlank,
      List.map_id'' outdent_zero, trimBlankLines_eq_nil allBlank]

theorem blockValue_blockInside (width : Nat) (text : Text) :
    blockValue (blockInside (List.replicate width ' ') text) =
      joinLines (settledLines (lines text)) := by
  have inside : lines (blockInside (List.replicate width ' ') text) =
      [] :: (text.lines.map (readLine width) ++ lastLine width) := by
    rw [blockInside, List.cons_append, lines_newline,
      lines_blockLines fun line member => not_mem_of_mem_lines member, lines_spaces]
    rfl
  rw [blockValue, inside, outdentTail, trimBlankLines_cons_of_blank rfl]
  exact congrArg joinLines (trim_outdentAll_readLines width _)

theorem blockValue_of_not_mem {text : Text} (noFeed : '\n' ∉ text)
    (notBlank : isBlank text = false) : blockValue text = text := by
  have nonempty : text ≠ [] := by
    rintro rfl
    cases notBlank
  rw [blockValue, lines_of_not_mem noFeed nonempty]
  have kept : trimBlankLines [text] = [text] :=
    trimBlankLines_eq_self ⟨text, rfl, notBlank⟩ ⟨text, rfl, notBlank⟩
  rw [outdentTail, List.map_nil, kept, joinLines_singleton]

end Text

theorem Lexeme.ofDescription_description? (width : Nat) (text : Text) :
    (ofDescription (List.replicate width ' ') text).description? = some text.settled := by
  unfold ofDescription Text.settled
  split
  · rw [block_description?, Text.blockValue_blockInside]
  · next noFeed =>
      split
      · next special =>
          have notBlank : Text.isBlank text = false := by
            rw [Text.isBlank, List.all_eq_false]
            rcases special with quote | backslash
            · exact ⟨_, quote, by decide⟩
            · exact ⟨_, backslash, by decide⟩
          rw [block_description?, Text.blockValue_of_not_mem noFeed notBlank]
      · exact string_description? text

theorem Lexeme.ofDescription_isDescription (indent text : Text) :
    (ofDescription indent text).kind.isDescription = true := by
  unfold ofDescription
  split
  · rfl
  · split <;> rfl

theorem Text.includes_iff_infix (text part : Text) :
    text.includes part = true ↔ part <:+: text := by
  induction text with
  | nil => simp [Text.includes]
  | cons c rest ih =>
      rw [Text.includes, Bool.or_eq_true, List.isPrefixOf_iff_prefix, ih, List.infix_cons_iff]

theorem Text.isDescribable_iff (text : Text) :
    text.isDescribable = true ↔
      ¬ ['"', '"', '"'] <:+: text ∧ text.getLast? ≠ some '"' := by
  simp [Text.isDescribable, ← Text.includes_iff_infix]

namespace Lexeme

theorem ofDescription_of_mem {text : Text} (indent : Text) (feed : '\n' ∈ text) :
    ofDescription indent text = block (Text.blockInside indent text) :=
  if_pos feed

end Lexeme

namespace Text

private theorem blockLine_injective {indent left right : Text}
    (same : blockLine indent left = blockLine indent right) : left = right := by
  by_cases leftEmpty : left = []
  · subst leftEmpty
    by_contra rightNonempty
    rw [blockLine_of_ne_nil indent (Ne.symm rightNonempty)] at same
    exact rightNonempty (List.append_eq_nil_iff.mp same.symm).2.symm
  · by_cases rightEmpty : right = []
    · subst rightEmpty
      rw [blockLine_of_ne_nil indent leftEmpty] at same
      exact absurd (List.append_eq_nil_iff.mp same).2 leftEmpty
    · rw [blockLine_of_ne_nil indent leftEmpty, blockLine_of_ne_nil indent rightEmpty] at same
      exact List.append_cancel_left same

private theorem flatMap_renderBlockLine_injective {width : Nat} {left right : List Text}
    (leftFree : ∀ line ∈ left, '\n' ∉ line) (rightFree : ∀ line ∈ right, '\n' ∉ line)
    (same : left.flatMap (renderBlockLine (List.replicate width ' ')) =
      right.flatMap (renderBlockLine (List.replicate width ' '))) : left = right := by
  induction left generalizing right with
  | nil =>
      cases right with
      | nil => rfl
      | cons second more =>
          rw [List.flatMap_cons, renderBlockLine_eq] at same
          simp at same
  | cons first rest ih =>
      cases right with
      | nil =>
          rw [List.flatMap_cons, renderBlockLine_eq] at same
          simp at same
      | cons second more =>
          simp only [List.flatMap_cons, renderBlockLine_eq, List.append_assoc,
            List.singleton_append] at same
          have firstFree := @not_mem_blockLine width _ (leftFree first List.mem_cons_self)
          have secondFree := @not_mem_blockLine width _ (rightFree second List.mem_cons_self)
          have split := congrArg (List.splitOn '\n') same
          rw [List.splitOn_append_cons_self_of_not_mem firstFree,
            List.splitOn_append_cons_self_of_not_mem secondFree, List.cons.injEq] at split
          have headEq := blockLine_injective split.1
          rw [split.1] at same
          have tailEq := List.append_cancel_left same
          rw [List.cons.injEq] at tailEq
          rw [headEq, ih (fun line member => leftFree line (List.mem_cons_of_mem first member))
            (fun line member => rightFree line (List.mem_cons_of_mem second member)) tailEq.2]

theorem lines_eq_of_blockInside_eq {width : Nat} {left right : Text}
    (same : blockInside (List.replicate width ' ') left =
      blockInside (List.replicate width ' ') right) : lines left = lines right := by
  simp only [blockInside, List.cons_append, List.cons.injEq, true_and] at same
  exact flatMap_renderBlockLine_injective (fun line member => not_mem_of_mem_lines member)
    (fun line member => not_mem_of_mem_lines member) (List.append_cancel_right same)

private theorem isDescribable_joinLines_lines {text : Text} (describable : text.isDescribable = true)
    (lastNotBlank : ∃ line, (lines text).getLast? = some line ∧ isBlank line = false)
    (lastUnquoted : ∀ line, (lines text).getLast? = some line → line.getLast? ≠ some '"') :
    (joinLines (lines text)).isDescribable = true := by
  have notEmptyLast := getLast?_ne_of_visible lastNotBlank
  obtain ⟨last, atLast, _⟩ := lastNotBlank
  have lastNonempty : last ≠ [] := by
    rintro rfl
    exact notEmptyLast atLast
  rw [isDescribable_iff] at describable ⊢
  constructor
  · intro tripled
    obtain ⟨line, member, found⟩ :=
      exists_infix_of_infix_joinLines (by decide) (by decide) tripled
    exact describable.1 (found.trans (infix_of_mem_lines member))
  · rw [getLast?_joinLines atLast lastNonempty]
    exact lastUnquoted last atLast

private theorem mem_settled_of_sameToken {text : Text} {width : Nat} (feed : '\n' ∈ text)
    (sameToken : Lexeme.ofDescription (List.replicate width ' ') text.settled =
      Lexeme.ofDescription (List.replicate width ' ') text) : '\n' ∈ text.settled := by
  rw [Lexeme.ofDescription_of_mem _ feed] at sameToken
  by_contra noFeed
  rw [Lexeme.ofDescription, if_neg noFeed] at sameToken
  split at sameToken
  · rw [Lexeme.block_injective sameToken] at noFeed
    exact noFeed (List.mem_cons_self)
  · exact Lexeme.block_ne_string _ _ sameToken.symm

private theorem reprintsAlike_of_sameToken {text : Text} {width : Nat} (feed : '\n' ∈ text)
    (sameToken : Lexeme.ofDescription (List.replicate width ' ') text.settled =
      Lexeme.ofDescription (List.replicate width ' ') text)
    (settledDescribable : text.settled.isDescribable = true) : text.ReprintsAlike := by
  have linesFree : ∀ line ∈ lines text, '\n' ∉ line := fun line member =>
    not_mem_of_mem_lines member
  have settledFeed := mem_settled_of_sameToken feed sameToken
  rw [Lexeme.ofDescription_of_mem _ feed, Lexeme.ofDescription_of_mem _ settledFeed] at sameToken
  have sameLines := lines_eq_of_blockInside_eq (Lexeme.block_injective sameToken)
  rw [settled_of_mem feed] at settledFeed sameLines settledDescribable
  have settledFree := not_mem_of_mem_settledLines linesFree
  have settledNonempty : settledLines (lines text) ≠ [] := by
    intro empty
    rw [empty] at settledFeed
    exact List.not_mem_nil settledFeed
  have standing := (settledLines_lines_joinLines_iff settledFree settledNonempty).mp
    (by rw [sameLines])
  have linesEq := lines_joinLines_eq settledFree (getLast?_ne_of_visible standing.lastNotBlank)
    standing.noReturn
  -- The settled lines are the lines of the text itself.
  rw [sameLines] at linesEq
  rw [← linesEq] at standing settledFeed settledDescribable
  refine ⟨(mem_joinLines_iff linesFree).mp settledFeed, standing, ?_⟩
  intro line atLast
  have lastNonempty : line ≠ [] := by
    rintro rfl
    exact getLast?_ne_of_visible standing.lastNotBlank atLast
  rw [← getLast?_joinLines atLast lastNonempty]
  exact ((isDescribable_iff _).mp settledDescribable).2

/-- A settled description is written again by the same token, and may be written at all, exactly when
the lines of the description stand flush, are at least two, and do not end in a quote. -/
theorem ofDescription_settled_iff {text : Text} (width : Nat) (feed : '\n' ∈ text)
    (describable : text.isDescribable = true) :
    Lexeme.ofDescription (List.replicate width ' ') text.settled =
        Lexeme.ofDescription (List.replicate width ' ') text ∧
      text.settled.isDescribable = true ↔ text.ReprintsAlike := by
  constructor
  · rintro ⟨sameToken, settledDescribable⟩
    exact reprintsAlike_of_sameToken feed sameToken settledDescribable
  · rintro ⟨severalLines, standing, lastUnquoted⟩
    have linesFree : ∀ line ∈ lines text, '\n' ∉ line := fun line member =>
      not_mem_of_mem_lines member
    have linesEq := lines_joinLines_eq linesFree (getLast?_ne_of_visible standing.lastNotBlank)
      standing.noReturn
    have joinedFeed := (mem_joinLines_iff linesFree).mpr severalLines
    rw [settled_of_mem feed, standing.settledLines_eq, Lexeme.ofDescription_of_mem _ feed,
      Lexeme.ofDescription_of_mem _ joinedFeed, blockInside, linesEq]
    exact ⟨rfl, isDescribable_joinLines_lines describable standing.lastNotBlank lastUnquoted⟩

end Text

theorem Text.fitsBlock_of_isDescribable {text : Text} (describable : text.isDescribable = true) :
    FitsBlock text :=
  (Text.isDescribable_iff text).mp describable

private theorem infix_of_infix_spaces_append {part : Text} (noSpace : ' ' ∉ part)
    (nonempty : part ≠ []) (width : Nat) {line : Text}
    (inside : part <:+: List.replicate width ' ' ++ line) : part <:+: line := by
  induction width with
  | zero => exact inside
  | succ width ih =>
      rw [List.replicate_succ, List.cons_append, List.infix_cons_iff] at inside
      rcases inside with atFront | later
      · cases part with
        | nil => contradiction
        | cons c part =>
            rw [(List.cons_prefix_cons.mp atFront).1] at noSpace
            exact absurd List.mem_cons_self noSpace
      · exact ih later

private theorem blockInside_eq_joinLines (indent text : Text) :
    Text.blockInside indent text =
      Text.joinLines ([] :: (text.lines.map (Text.blockLine indent) ++ [indent])) := by
  have written : ∀ lines : List Text, lines.flatMap (renderBlockLine indent) ++ indent =
      Text.joinLines (lines.map (Text.blockLine indent) ++ [indent]) := by
    intro lines
    induction lines with
    | nil => exact (Text.joinLines_singleton indent).symm
    | cons first more ih =>
        rw [List.flatMap_cons, List.append_assoc, ih, Text.renderBlockLine_eq]
        cases more with
        | nil => simp [Text.joinLines]
        | cons second more => simp [Text.joinLines_cons_cons]
  rw [Text.blockInside, List.cons_append, written]
  cases text.lines with
  | nil => rfl
  | cons first more => rfl

private theorem exists_blockLines_eq_concat (indent : Text) (lines : List Text) :
    ∃ front, '\n' :: lines.flatMap (renderBlockLine indent) = front ++ ['\n'] := by
  rcases List.eq_nil_or_concat lines with rfl | ⟨before, last, rfl⟩
  · exact ⟨[], rfl⟩
  · refine ⟨'\n' :: before.flatMap (renderBlockLine indent) ++ Text.blockLine indent last, ?_⟩
    simp [Text.renderBlockLine_eq]

/-- A description never closes the block that it is written in. -/
theorem Text.fitsBlock_blockInside (width : Nat) {text : Text}
    (describable : text.isDescribable = true) :
    FitsBlock (Text.blockInside (List.replicate width ' ') text) := by
  constructor
  · intro tripled
    rw [blockInside_eq_joinLines] at tripled
    obtain ⟨line, member, found⟩ :=
      Text.exists_infix_of_infix_joinLines (by decide) (by decide) tripled
    have spacesFree : ∀ line : Text, ['"', '"', '"'] <:+: List.replicate width ' ' ++ line →
        ['"', '"', '"'] <:+: line := fun line =>
      infix_of_infix_spaces_append (by decide) (by decide) width
    rcases List.mem_cons.mp member with rfl | later
    · exact absurd (List.infix_nil.mp found) (by decide)
    · rcases List.mem_append.mp later with written | closing
      · obtain ⟨original, inLines, rfl⟩ := List.mem_map.mp written
        have inOriginal : ['"', '"', '"'] <:+: original := by
          by_cases empty : original = []
          · subst empty
            exact found
          · rw [Text.blockLine_of_ne_nil _ empty] at found
            exact spacesFree original found
        exact ((Text.isDescribable_iff text).mp describable).1
          (inOriginal.trans (Text.infix_of_mem_lines inLines))
      · rw [List.mem_singleton.mp closing, ← List.append_nil (List.replicate width ' ')] at found
        exact absurd (List.infix_nil.mp (spacesFree [] found)) (by decide)
  · cases width with
    | zero =>
        obtain ⟨front, ended⟩ := exists_blockLines_eq_concat (List.replicate 0 ' ') text.lines
        rw [Text.blockInside, ended, List.replicate_zero, List.append_nil, List.getLast?_concat]
        decide
    | succ width =>
        rw [Text.blockInside, List.replicate_succ', ← List.append_assoc, List.getLast?_concat]
        decide

theorem Reads.description (width : Nat) {text : Text} (describable : text.isDescribable = true)
    (rest : Text) :
    Reads (renderDescription (List.replicate width ' ') text ++ rest)
      [.ofDescription (List.replicate width ' ') text] rest := by
  have token : Reads
      ((Lexeme.ofDescription (List.replicate width ' ') text).text ++ '\n' :: rest)
      [.ofDescription (List.replicate width ' ') text] ('\n' :: rest) := by
    unfold Lexeme.ofDescription
    split
    · exact Reads.block (Text.fitsBlock_blockInside width describable) _
    · next noFeed =>
        split
        · exact Reads.block (Text.fitsBlock_of_isDescribable describable) _
        · have stringText : (Lexeme.string text).text ++ '\n' :: rest =
              '"' :: text.escape ++ '"' :: '\n' :: rest := by
            simp [Lexeme.string]
          rw [stringText]
          exact Reads.string noFeed (by simp)
  rw [renderDescription_eq, List.append_assoc, List.append_assoc, List.singleton_append]
  exact (Reads.spaces width _).append (token.append (Reads.newline rest))

end SdlWorkbench
