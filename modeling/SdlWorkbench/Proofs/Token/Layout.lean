import SdlWorkbench.Proofs.Token.LexicalClass
import Mathlib.Data.List.Chain
/-!
Layout.

A text may be put together from lexemes with ignored text around them.  When neighbours that could run
into one another are kept apart, the tokens of the text are these lexemes, each at its place, whatever
the ignored text is.
-/

namespace SdlWorkbench

/-- Whether a text is made of separators and comments alone, each comment with the line feed that ends
it.  `inComment` says that the text starts inside a comment. -/
def isIgnorable (inComment : Bool) : Text → Bool
  | [] => !inComment
  | c :: rest =>
      if inComment then isIgnorable (c != '\n') rest
      else if c = '#' then isIgnorable true rest
      else isSeparator c && isIgnorable false rest

theorem takeIgnored_of_ignorable {inComment : Bool} {gap : Text}
    (ignorable : isIgnorable inComment gap = true) (text : Text) :
    takeIgnored inComment (gap ++ text) =
      (gap ++ (takeIgnored false text).1, (takeIgnored false text).2) := by
  induction gap generalizing inComment with
  | nil =>
      cases inComment with
      | true => cases ignorable
      | false => rfl
  | cons c rest ih =>
      rw [isIgnorable] at ignorable
      rw [List.cons_append, takeIgnored]
      split at ignorable
      · next inside =>
          subst inside
          simp [ih ignorable]
      · next outside =>
          rw [Bool.not_eq_true] at outside
          subst outside
          split at ignorable
          · next isMark =>
              subst isMark
              simp [ih ignorable]
          · next notMark =>
              rw [Bool.and_eq_true] at ignorable
              simp [ignorable.1, notMark, ih ignorable.2]

/-- Ignorable text in front of the end or of other text keeps tokens apart, unless it is empty. -/
theorem delimits_of_ignorable {gap : Text} (ignorable : isIgnorable false gap = true)
    {text : Text} (delimits : gap = [] → Delimits text) : Delimits (gap ++ text) := by
  cases gap with
  | nil => exact delimits rfl
  | cons c rest =>
      apply delimits_cons
      rw [isIgnorable, if_neg Bool.false_ne_true] at ignorable
      split at ignorable
      · next isMark =>
          subst isMark
          decide
      · rw [Bool.and_eq_true] at ignorable
        simp [isDelimiter, ignorable.1]

structure Layout where
  words : List (Text × Lexeme)
  after : Text
deriving DecidableEq

namespace Layout

def lexemes (layout : Layout) : List Lexeme :=
  layout.words.map Prod.snd

def text (layout : Layout) : Text :=
  layout.words.flatMap (fun word => word.1 ++ word.2.text) ++ layout.after

/-- The lexemes at their places in a text that begins at the byte `offset`. -/
def tokensFrom (offset : Nat) : List (Text × Lexeme) → List Token
  | [] => []
  | (gap, lexeme) :: rest =>
      let start := offset + gap.utf8Length
      let stop := start + lexeme.text.utf8Length
      { lexeme with span := ⟨start, stop⟩ } :: tokensFrom stop rest

def tokens (layout : Layout) : List Token :=
  tokensFrom 0 layout.words

/-- The gaps are ignorable, and no gap is empty unless punctuation stands on one side of it.  There may
be ignorable text in front of the first lexeme and behind the last. -/
structure Sound (layout : Layout) : Prop where
  gaps : ∀ word ∈ layout.words, isIgnorable false word.1 = true
  after : isIgnorable false layout.after = true
  apart : layout.words.IsChain fun first next =>
    next.1 ≠ [] ∨ first.2.kind.isMark = true ∨ next.2.kind.isMark = true

theorem toLexeme_tokensFrom (offset : Nat) (words : List (Text × Lexeme)) :
    (tokensFrom offset words).map Token.toLexeme = words.map Prod.snd := by
  induction words generalizing offset with
  | nil => rfl
  | cons word rest ih =>
      rw [tokensFrom, List.map_cons, ih]
      rfl

theorem toLexeme_tokens (layout : Layout) : layout.tokens.map Token.toLexeme = layout.lexemes :=
  toLexeme_tokensFrom 0 layout.words

theorem Sound.ends {gap : Text} {lexeme : Lexeme} {rest : List (Text × Lexeme)} {after : Text}
    (sound : Sound ⟨(gap, lexeme) :: rest, after⟩)
    (inClass : ∀ word ∈ rest, word.2.InClass) :
    lexeme.kind.isMark = true ∨ Delimits (text ⟨rest, after⟩) := by
  cases rest with
  | nil =>
      right
      have delimits := delimits_of_ignorable sound.after fun _ => delimits_nil
      rwa [List.append_nil] at delimits
  | cons next others =>
      have nextGap := sound.gaps next (List.mem_cons_of_mem _ List.mem_cons_self)
      have parts : text ⟨next :: others, after⟩ =
          next.1 ++ (next.2.text ++ text ⟨others, after⟩) := by
        simp [text]
      rw [parts]
      rcases (List.isChain_cons_cons.mp sound.apart).1 with separated | isMark | nextIsMark
      · exact .inr (delimits_of_ignorable nextGap fun empty => absurd empty separated)
      · exact .inl isMark
      · have nextInClass := inClass next List.mem_cons_self
        exact .inr (delimits_of_ignorable nextGap fun _ => nextInClass.delimits nextIsMark _)

theorem Sound.tail {word : Text × Lexeme} {rest : List (Text × Lexeme)} {after : Text}
    (sound : Sound ⟨word :: rest, after⟩) : Sound ⟨rest, after⟩ where
  gaps := fun other member => sound.gaps other (List.mem_cons_of_mem _ member)
  after := sound.after
  apart := sound.apart.tail

theorem scanFrom_text {after : Text} {words : List (Text × Lexeme)} (sound : Sound ⟨words, after⟩)
    (inClass : ∀ word ∈ words, word.2.InClass) (offset : Nat) :
    SourceItem.scanFrom offset (text ⟨words, after⟩) =
      (tokensFrom offset words).map Token.item := by
  induction words generalizing offset with
  | nil =>
      apply SourceItem.scanFrom_of_nil
      have skipped := takeIgnored_of_ignorable sound.after []
      rw [List.append_nil] at skipped
      exact congrArg Prod.snd skipped
  | cons word rest ih =>
      obtain ⟨gap, lexeme⟩ := word
      obtain ⟨lexemeInClass, restInClass⟩ := List.forall_mem_cons.mp inClass
      obtain ⟨c, tail, starts, next⟩ := lexemeInClass.exists_next (sound.ends restInClass)
      have parts : text ⟨(gap, lexeme) :: rest, after⟩ =
          gap ++ (lexeme.text ++ text ⟨rest, after⟩) := by
        simp [text]
      have skipped := takeIgnored_of_ignorable (sound.gaps _ List.mem_cons_self) (c :: tail)
      have started := takeIgnored_of_next next
      rw [parts, starts, SourceItem.scanFrom_of_ignored skipped,
        SourceItem.scanFrom_of_cons _ (by rw [started]), started, next]
      simp only [Text.utf8Length, Nat.add_zero, ih sound.tail restInClass]
      rfl

theorem ofText_text {layout : Layout} (sound : layout.Sound)
    (inClass : ∀ lexeme ∈ layout.lexemes, lexeme.InClass) :
    Token.ofText layout.text = .ok layout.tokens := by
  refine Token.ofText_eq_ok_iff.mpr (scanFrom_text sound (fun word member => ?_) 0)
  exact inClass word.2 (List.mem_map_of_mem member)

end Layout

end SdlWorkbench
