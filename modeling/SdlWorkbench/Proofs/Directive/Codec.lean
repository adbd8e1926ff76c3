import SdlWorkbench.Proofs.Document.Productions
import SdlWorkbench.Proofs.Token.Joining
import SdlWorkbench.Proofs.Token.Shape
/-!
The domain of the text form of directives.

A directive that was read has identifiers for keys, since only names are read as keys.  A value with a
line feed is written as a string that ends at this line feed without its quote, which is no token.  So a
directive comes back exactly when its keys are identifiers and its values end on their line.
-/

namespace SdlWorkbench

/-- Every token that is a name has an identifier for its text. -/
def NamesIdentified (tokens : List Token) : Prop :=
  ∀ token ∈ tokens, token.kind.isName = true → isIdentifier token.text = true

theorem NamesIdentified.tail {first : Token} {rest : List Token}
    (identified : NamesIdentified (first :: rest)) : NamesIdentified rest :=
  fun token member => identified token (List.mem_cons_of_mem first member)

def Arguments.KeysIdentified (arguments : Arguments) : Prop :=
  ∀ entry ∈ arguments.entries, isIdentifier entry.1 = true

theorem Arguments.KeysIdentified.insert {arguments : Arguments} (keys : arguments.KeysIdentified)
    {key : Text} (isKey : isIdentifier key = true) (value : Text) :
    (arguments.insert key value).KeysIdentified := by
  intro entry member
  rcases mem_insertEntry member with rfl | old
  · exact isKey
  · exact keys entry old

namespace Production

theorem bind_eq_success_iff {α β : Type} {first : Production α} {next : α → Production β}
    {tokens rest : List Token} {result : β} :
    (first >>= next) tokens = .success result rest ↔
      ∃ value middle, first tokens = .success value middle ∧
        next value middle = .success result rest := by
  simp only [bind, Production.bind]
  cases first tokens with
  | success value middle => simp
  | failure error middle => simp

theorem token_eq_success {kind : TokenKind} {expected : Expected} {tokens rest : List Token}
    {first : Token} (read : token kind expected tokens = .success first rest) :
    tokens = first :: rest ∧ first.kind = kind := by
  cases tokens with
  | nil => cases read
  | cons other later =>
      rw [token] at read
      split at read
      · next isKind =>
          cases read
          exact ⟨rfl, isKind⟩
      · cases read

theorem name_eq_success {expected : Expected} {tokens rest : List Token} {result : Name}
    (read : name expected tokens = .success result rest) :
    ∃ first, tokens = first :: rest ∧ first.name? = some result := by
  cases tokens with
  | nil => cases read
  | cons first later =>
      rw [name, nameToken] at read
      split at read
      · next found named =>
          cases read
          exact ⟨first, rfl, named⟩
      · cases read

theorem optional_eq_some {kind : TokenKind} {tokens rest : List Token} {first : Token}
    (read : optional kind tokens = .success (some first) rest) :
    tokens = first :: rest ∧ first.kind = kind := by
  cases tokens with
  | nil => cases read
  | cons other later =>
      rw [optional] at read
      split at read
      · next isKind =>
          cases read
          exact ⟨rfl, isKind⟩
      · cases read

theorem optional_eq_none {kind : TokenKind} {tokens rest : List Token}
    (read : optional kind tokens = .success none rest) : tokens = rest := by
  cases tokens with
  | nil =>
      cases read
      rfl
  | cons other later =>
      rw [optional] at read
      split at read
      · cases read
      · cases read
        rfl

theorem arguments_keysIdentified {directive : Name} {bound result : Arguments}
    {tokens rest : List Token} (read : arguments directive bound tokens = .success result rest)
    (keys : bound.KeysIdentified) (identified : NamesIdentified tokens) :
    result.KeysIdentified := by
  fun_induction arguments directive bound tokens with
  | case2 bound key afterKey closes =>
      cases read
      exact keys
  | case7 bound key _ isName _ _ _ rest text _ ih =>
      have isKey := identified key List.mem_cons_self (by simpa using isName)
      exact ih read (keys.insert isKey text) identified.tail.tail.tail
  | _ => cases read

theorem optionalArguments_keysIdentified {directive : Name} {result : Arguments}
    {tokens rest : List Token} (read : optionalArguments directive tokens = .success result rest)
    (identified : NamesIdentified tokens) : result.KeysIdentified := by
  have emptyKeys : Arguments.empty.KeysIdentified := by
    intro entry impossible
    cases impossible
  rw [optionalArguments, bind_eq_success_iff] at read
  obtain ⟨opening, middle, opened, read⟩ := read
  cases opening with
  | none =>
      cases read
      exact emptyKeys
  | some parenthesis =>
      obtain ⟨rfl, -⟩ := optional_eq_some opened
      exact arguments_keysIdentified read emptyKeys identified.tail

theorem directive_keysIdentified {result : Directive} {tokens rest : List Token}
    (read : directive tokens = .success result rest) (identified : NamesIdentified tokens) :
    result.arguments.KeysIdentified := by
  simp only [directive, bind_eq_success_iff] at read
  obtain ⟨mark, afterMark, marked, name, afterName, named, arguments, left, listed, made⟩ := read
  cases made
  obtain ⟨rfl, -⟩ := token_eq_success marked
  obtain ⟨nameToken, rfl, -⟩ := name_eq_success named
  exact optionalArguments_keysIdentified listed identified.tail.tail

end Production

namespace Directive

theorem keysIdentified_of_decode {text : Text} {directive : Directive}
    (decoded : decode text = .ok directive) : directive.arguments.KeysIdentified := by
  rw [decode] at decoded
  cases lexed : Token.ofText text with
  | error spans =>
      rw [lexed] at decoded
      cases decoded
  | ok tokens =>
      rw [lexed] at decoded
      dsimp only at decoded
      rw [ofTokens] at decoded
      split at decoded
      · cases decoded
      · next found read =>
          cases decoded
          exact Production.directive_keysIdentified read (Token.isIdentifier_of_isName lexed)
      · cases decoded

end Directive

/-- A string with a line feed inside stops there. -/
theorem takeQuoted_escape_of_mem {text : Text} (feed : '\n' ∈ text) (rest : Text) :
    ∃ taken left, takeQuoted '"' (text.escape ++ rest) = (taken, '\n' :: left) := by
  induction text with
  | nil => cases feed
  | cons c text ih =>
      by_cases isFeed : c = '\n'
      · subst isFeed
        refine ⟨[], Text.escape text ++ rest, ?_⟩
        simp [Text.escape, takeQuoted]
      · obtain ⟨taken, left, later⟩ := ih ((List.mem_cons.mp feed).resolve_left (Ne.symm isFeed))
        rw [Text.escape]
        split
        · exact ⟨'\\' :: c :: taken, left, by simp [takeQuoted, isFeed, later]⟩
        · next plain =>
            rw [not_or] at plain
            refine ⟨c :: taken, left, ?_⟩
            rw [List.cons_append, takeQuoted.eq_4 _ _ _ (by simp [plain.2]) (by simp [plain.2])]
            simp [plain.1, isFeed, later]

/-- A value with a line feed makes no token where it is written. -/
theorem Piece.next_escape_of_mem {text : Text} (feed : '\n' ∈ text) (rest : Text) :
    (Piece.next '"' (text.escape ++ rest)).kind = none := by
  obtain ⟨taken, left, stopped⟩ := takeQuoted_escape_of_mem feed rest
  have single : ∀ inside, text.escape ++ rest ≠ '"' :: '"' :: inside := by
    intro inside
    cases text with
    | nil => cases feed
    | cons c text =>
        rw [Text.escape]
        split
        · simp
        · next plain =>
            rw [not_or] at plain
            simp [plain.1]
  rw [Piece.next_quote single, Piece.quoted, stopped]
  rfl

/-- A text has no tokens when what comes after some of them is no token. -/
theorem Reads.ofText_error {text rest : Text} {lexemes : List Lexeme} {c : Char}
    (reads : Reads text lexemes (c :: rest)) (visible : (takeIgnored false (c :: rest)).2 = c :: rest)
    (invalid : (Piece.next c rest).kind = none) : ∃ spans, Token.ofText text = .error spans := by
  cases lexed : Token.ofText text with
  | error spans => exact ⟨spans, rfl⟩
  | ok tokens =>
      obtain ⟨front, start, -, scanned⟩ := reads.scanFrom 0
      have whole : SourceItem.scanFrom 0 text = tokens.map Token.item :=
        Token.ofText_eq_ok_iff.mp lexed
      rw [scanned, SourceItem.scanFrom_of_cons start visible, invalid] at whole
      -- The item of the invalid piece would have to be one of the tokens.
      obtain ⟨token, -, same⟩ := List.mem_map.mp
        (whole ▸ List.mem_append_right _ List.mem_cons_self)
      cases same

theorem Directive.exists_encodeEntries_eq (first : Text × Text) (more : List (Text × Text))
    (rest : Text) : ∃ left, [','].intercalate ((first :: more).map encodeEntry) ++ rest =
      first.1 ++ (':' :: ('"' :: (first.2.escape ++ left))) := by
  cases more with
  | nil => exact ⟨'"' :: rest, by simp [encodeEntry]⟩
  | cons second more =>
      exact ⟨'"' :: ',' :: ([','].intercalate ((second :: more).map encodeEntry) ++ rest),
        by simp [encodeEntry]⟩

/-- The entries are read up to the first value with a line feed. -/
theorem Reads.entries_of_feed {entries : List (Text × Text)}
    (keys : ∀ entry ∈ entries, isIdentifier entry.1 = true)
    (feeds : ∃ entry ∈ entries, '\n' ∈ entry.2) (rest : Text) :
    ∃ (lexemes : List Lexeme) (value left : Text), '\n' ∈ value ∧
      Reads ([','].intercalate (entries.map Directive.encodeEntry) ++ rest) lexemes
        ('"' :: (value.escape ++ left)) := by
  induction entries with
  | nil =>
      obtain ⟨entry, impossible, -⟩ := feeds
      cases impossible
  | cons first more ih =>
      have keyValid := keys first List.mem_cons_self
      by_cases feed : '\n' ∈ first.2
      · obtain ⟨left, text⟩ := Directive.exists_encodeEntries_eq first more rest
        have colon : TokenKind.ofPunctuation? ':' = some .colon := rfl
        have reads := (Reads.identifier keyValid (endsName_cons (by decide) _)).append
          (Reads.mark colon ('"' :: (first.2.escape ++ left)))
        rw [← text] at reads
        exact ⟨_, first.2, left, feed, reads⟩
      · obtain ⟨entry, member, entryFeed⟩ := feeds
        have later : entry ∈ more := by
          rcases List.mem_cons.mp member with rfl | later
          · exact absurd entryFeed feed
          · exact later
        obtain ⟨lexemes, value, left, valueFeed, reads⟩ :=
          ih (fun entry member => keys entry (List.mem_cons_of_mem first member))
            ⟨entry, later, entryFeed⟩
        cases more with
        | nil => cases later
        | cons second more =>
            have text : [','].intercalate ((first :: second :: more).map Directive.encodeEntry) ++
                rest = Directive.encodeEntry first ++
                  (',' :: ([','].intercalate ((second :: more).map Directive.encodeEntry) ++
                    rest)) := by
              simp
            rw [text]
            exact ⟨_, value, left, valueFeed,
              (Reads.entry keyValid feed (by simp)).append (.separator rfl reads)⟩

namespace Directive

theorem ofText_encode_of_feed {directive : Directive} (keys : directive.arguments.KeysIdentified)
    (feeds : ∃ entry ∈ directive.arguments.entries, '\n' ∈ entry.2) :
    ∃ spans, Token.ofText directive.encode = .error spans := by
  have atSign : TokenKind.ofPunctuation? '@' = some .atSign := rfl
  have opening : TokenKind.ofPunctuation? '(' = some .leftParen := rfl
  obtain ⟨lexemes, value, left, feed, reads⟩ := Reads.entries_of_feed keys feeds [')']
  have nonempty : directive.arguments.entries.isEmpty = false := by
    obtain ⟨entry, member, -⟩ := feeds
    cases entriesEq : directive.arguments.entries with
    | nil =>
        rw [entriesEq] at member
        cases member
    | cons first more => rfl
  have text : directive.encode = '@' :: (directive.name.text ++ ('(' :: ([','].intercalate
      (directive.arguments.entries.map encodeEntry) ++ [')']))) := by
    simp [encode, nonempty]
  have front := (Reads.mark atSign _).append
    ((Reads.name directive.name (endsName_cons (by decide) _)).append
      ((Reads.mark opening _).append reads))
  rw [text]
  exact front.ofText_error rfl (Piece.next_escape_of_mem feed left)

theorem decode_encode_of_spelled {directive : Directive} (spelled : directive.Spelled) :
    decode directive.encode = .ok directive := by
  have endsName : EndsName [] := by
    intro c impossible
    cases impossible
  have endsDirective : NextIsNot .leftParen [] := by
    intro token impossible
    cases impossible
  have reads := Reads.directive spelled endsName
  rw [List.append_nil] at reads
  obtain ⟨tokens, lexed, spells⟩ := reads.ofText
  have read := Production.directive_success spells endsDirective
  rw [List.append_nil] at read
  rw [decode, lexed]
  dsimp only
  rw [ofTokens, read]
  rfl

example : decode (encode ⟨Name.literal "a",
      Arguments.empty.insert "b".toList "\"c\\n, d:\"e\") # f\r".toList⟩) =
    .ok ⟨Name.literal "a", Arguments.empty.insert "b".toList "\"c\\n, d:\"e\") # f\r".toList⟩ :=
  decode_encode_of_spelled (by unfold Spelled; decide)

/-- A directive comes back from its text exactly when all its keys are identifiers and no value has a
line feed.  All else that a value may hold, quotes and backslashes included, is kept. -/
theorem decode_encode_eq_ok_iff (directive : Directive) :
    decode directive.encode = .ok directive ↔
      ∀ entry ∈ directive.arguments.entries, isIdentifier entry.1 = true ∧ '\n' ∉ entry.2 := by
  constructor
  · intro decoded entry member
    have keys := keysIdentified_of_decode decoded
    refine ⟨keys entry member, fun feed => ?_⟩
    obtain ⟨spans, refused⟩ := ofText_encode_of_feed keys ⟨entry, member, feed⟩
    rw [decode, refused] at decoded
    cases decoded
  · exact decode_encode_of_spelled

end Directive

end SdlWorkbench
