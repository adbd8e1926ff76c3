import SdlWorkbench.Proofs.Token.Matching
import SdlWorkbench.Proofs.Token.Shape
/-!
What a token tells by its kind.

The tokens of a text belong to the classes of their kinds.  A mark and a name are known by kind and text,
and of all tokens only block strings span lines.  So a further line without quotes never makes tokens of
what was none.
-/

namespace SdlWorkbench

theorem SourceItem.inClass {text : Text} {item : SourceItem} (member : item ∈ scan text)
    {kind : TokenKind} (isKind : item.kind = some kind) : Lexeme.InClass ⟨kind, item.text⟩ := by
  have classes := @forall_mem_scanFrom
    (fun kind text => ∀ found, kind = some found → Lexeme.InClass ⟨found, text⟩)
    (fun _ _ _ isKind => Piece.next_inClass isKind) 0 text
  exact classes item member kind isKind

theorem Token.inClass_of_ofText {text : Text} {tokens : List Token}
    (read : Token.ofText text = .ok tokens) : ∀ token ∈ tokens, token.InClass := by
  intro token member
  exact SourceItem.inClass (Token.item_mem_scan read member) rfl

theorem TokenKind.ofPunctuation?_injective {c d : Char} {kind : TokenKind}
    (first : ofPunctuation? c = some kind) (second : ofPunctuation? d = some kind) : c = d := by
  unfold ofPunctuation? at first second
  split at first <;> cases first <;> split at second <;> first | rfl | cases second

theorem TokenKind.isMark_of_ofPunctuation? {c : Char} {kind : TokenKind}
    (known : ofPunctuation? c = some kind) : kind.isMark = true := by
  unfold ofPunctuation? at known
  split at known <;> cases known <;> rfl

namespace Lexeme

theorem InClass.eq_identifier {lexeme : Lexeme} (inClass : lexeme.InClass)
    (isName : lexeme.kind.isName = true) : lexeme = .identifier lexeme.text := by
  cases inClass with
  | identifier _ => rfl
  | @mark kind c known =>
      change kind.isName = true at isName
      rw [Piece.ofPunctuation?_not_isName known] at isName
      cases isName
  | _ => cases isName

theorem InClass.eq_identifier_of_name? {lexeme : Lexeme} (inClass : lexeme.InClass) {name : Name}
    (named : lexeme.name? = some name) : lexeme = .identifier name.text := by
  rw [name?] at named
  split at named
  · next isName =>
      rw [Name.ofText?_eq_some_iff.mp named]
      exact inClass.eq_identifier isName
  · cases named

theorem InClass.eq_mark {lexeme : Lexeme} (inClass : lexeme.InClass) {c : Char}
    (known : TokenKind.ofPunctuation? c = some lexeme.kind) : lexeme = .mark lexeme.kind c := by
  have isMark := TokenKind.isMark_of_ofPunctuation? known
  cases inClass with
  | mark other => rw [TokenKind.ofPunctuation?_injective known other]; rfl
  | @identifier text _ =>
      change (TokenKind.ofIdentifier text).isMark = true at isMark
      rw [TokenKind.ofIdentifier_not_isMark] at isMark
      cases isMark
  | _ => cases isMark

theorem InClass.eq_block {lexeme : Lexeme} (inClass : lexeme.InClass)
    (isBlock : lexeme.kind = .blockString) : ∃ inside, FitsBlock inside ∧ lexeme = .block inside := by
  cases inClass with
  | block fits => exact ⟨_, fits, rfl⟩
  | @mark kind c known =>
      change kind = .blockString at isBlock
      have isMark := TokenKind.isMark_of_ofPunctuation? known
      rw [isBlock] at isMark
      cases isMark
  | @identifier text _ =>
      have isName := identifier_isName text
      rw [isBlock] at isName
      cases isName
  | _ => cases isBlock

end Lexeme

theorem FitsQuotes.not_mem_feed {quote : Char} {inside : Text} (fits : FitsQuotes quote inside) :
    '\n' ∉ inside := by
  induction fits with
  | nil => exact List.not_mem_nil
  | char _ _ notFeed _ ih => simp [Ne.symm notFeed, ih]
  | escape notFeed _ ih => simp [Ne.symm notFeed, ih]

theorem IsNumeral.not_mem_feed {digits : Text} (numeral : IsNumeral digits) : '\n' ∉ digits :=
  fun feed => ne_of_isDigit (numeral.digits _ feed) (by decide : Char.isDigit '\n' = false) rfl

theorem IsExponent.not_mem_feed {exponent : Text} (ends : IsExponent exponent) :
    '\n' ∉ exponent := by
  cases ends with
  | none => exact List.not_mem_nil
  | some marks signs numeral =>
      have digits := numeral.not_mem_feed
      rcases marks with rfl | rfl <;> rcases signs with rfl | rfl | rfl <;> simp [digits]

/-- Only a block string spans lines. -/
theorem Lexeme.InClass.exists_eq_block {lexeme : Lexeme} (inClass : lexeme.InClass)
    (feed : '\n' ∈ lexeme.text) : ∃ inside, lexeme = .block inside := by
  cases inClass with
  | block _ => exact ⟨_, rfl⟩
  | mark known =>
      obtain rfl := List.mem_singleton.mp feed
      cases known
  | identifier valid =>
      exfalso
      obtain ⟨c, rest, rfl⟩ := List.exists_cons_of_ne_nil (List.ne_nil_of_mem feed)
      simp only [isIdentifier, Bool.and_eq_true, List.all_eq_true] at valid
      rcases List.mem_cons.mp feed with rfl | later
      · exact absurd valid.1 (by decide)
      · exact absurd (valid.2 _ later) (by decide)
  | stringLiteral fits => simp [fits.not_mem_feed] at feed
  | singleQuoted fits => simp [fits.not_mem_feed] at feed
  | integer signs numeral =>
      rcases signs with rfl | rfl <;> simp [numeral.not_mem_feed] at feed
  | float signs numeral fractional ends =>
      rcases signs with rfl | rfl <;>
        simp [numeral.not_mem_feed, fractional.not_mem_feed, ends.not_mem_feed] at feed

/-- A token ends before a line without quotes, or at its line feed at the latest. -/
theorem Lexeme.InClass.prefix_of_append_newline {lexeme : Lexeme} (inClass : lexeme.InClass)
    {front more rest : Text} (parts : lexeme.text ++ rest = front ++ '\n' :: more)
    (noQuote : '"' ∉ more) : lexeme.text <+: front := by
  rcases List.append_eq_append_iff.mp parts with ⟨back, frontEq, -⟩ | ⟨back, textEq, behind⟩
  · exact ⟨back, frontEq.symm⟩
  · cases back with
    | nil => exact ⟨[], by rw [textEq]; simp⟩
    | cons c back =>
        rw [List.cons_append, List.cons.injEq] at behind
        obtain ⟨rfl, moreEq⟩ := behind
        obtain ⟨inside, rfl⟩ := inClass.exists_eq_block (by rw [textEq]; simp)
        -- A block ends in a quote, which would stand behind the line feed.
        have last : (Lexeme.block inside).text.getLast? = some '"' :=
          List.getLast?_append_of_ne_nil _ (by decide)
        rw [textEq, List.getLast?_append_of_ne_nil _ (List.cons_ne_nil _ _)] at last
        have quoted := List.mem_of_getLast? last
        rw [List.mem_cons] at quoted
        refine absurd ?_ noQuote
        rw [moreEq]
        exact List.mem_append_left _ (quoted.resolve_left (by decide))

/-- Text that is no token stays none when a line without quotes comes behind it. -/
theorem Piece.kind_append_newline {c : Char} {rest more : Text} (invalid : (next c rest).kind = none)
    (noQuote : '"' ∉ more) : (next c (rest ++ '\n' :: more)).kind = none := by
  by_contra isToken
  obtain ⟨kind, isKind⟩ := Option.ne_none_iff_exists'.mp isToken
  have inClass := next_inClass isKind
  have inFront := @Lexeme.InClass.prefix_of_append_newline _ inClass (c :: rest) more _
    (next_append c (rest ++ '\n' :: more)) noQuote
  rw [← next_append c rest] at inFront
  obtain ⟨isEmpty, third⟩ := (next_isMatch c rest).invalid invalid _ inClass inFront
  -- With three quotes in front the piece is a block, and not the empty string.
  rw [next_append] at third
  obtain ⟨behind, opens⟩ := third
  cases opens
  change (block (behind ++ '\n' :: more)).text = ['"', '"'] at isEmpty
  simp only [block] at isEmpty
  split at isEmpty <;> simp at isEmpty

/-- A text with something in it that is no token has it still when a line without quotes comes behind
the text. -/
theorem SourceItem.exists_invalid_append_newline {offset : Nat} {text more : Text}
    (invalid : ∃ item ∈ scanFrom offset text, item.kind = none) (noQuote : '"' ∉ more) :
    ∃ item ∈ scanFrom offset (text ++ '\n' :: more), item.kind = none := by
  fun_induction scanFrom offset text with
  | case1 =>
      obtain ⟨item, impossible, -⟩ := invalid
      cases impossible
  | case2 offset text start c rest started piece stop ih =>
      have together := takeIgnored_append_of_cons started ('\n' :: more)
      have sameStart : (takeIgnored false (text ++ '\n' :: more)).2 =
          c :: (rest ++ '\n' :: more) := by
        rw [together]
      rw [scanFrom_of_cons _ sameStart, together]
      by_cases isToken : piece.kind = none
      · exact ⟨_, List.mem_cons_self, Piece.kind_append_newline isToken noQuote⟩
      · rw [Piece.next_append_newline isToken]
        obtain ⟨item, member, isNone⟩ := invalid
        rcases List.mem_cons.mp member with rfl | later
        · exact absurd isNone isToken
        · obtain ⟨other, among, otherNone⟩ := ih ⟨item, later, isNone⟩
          exact ⟨other, List.mem_cons_of_mem _ among, otherNone⟩

end SdlWorkbench
