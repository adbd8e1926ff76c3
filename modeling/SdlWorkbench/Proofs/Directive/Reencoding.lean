import SdlWorkbench.Proofs.Directive.Forms
import SdlWorkbench.Proofs.Token.Coverage
/-!
Writing again what was decoded.

A line feed comes into a value by its escape alone, since every other token of an argument ends on its
line.  The canonical text has no such escape: it has the line feed itself, and no string goes on behind
that.  So a decoded directive comes back from its canonical text unless a line feed was escaped.
-/

namespace SdlWorkbench

/-- Whether a line feed is escaped in the inside of a string literal. -/
def Text.escapesFeed : Text → Bool
  | [] => false
  | '\\' :: c :: rest => c = 'n' || escapesFeed rest
  | _ :: rest => escapesFeed rest

/-- On a single line a line feed can only be denoted. -/
theorem Text.mem_unescape_iff {quote : Char} {text : Text} (oneLine : '\n' ∉ text) :
    '\n' ∈ unescape quote text ↔ text.escapesFeed = true := by
  fun_induction escapesFeed text with
  | case1 => simp [unescape]
  | case2 c rest ih =>
      simp only [List.mem_cons, not_or] at oneLine
      have notFeed : '\n' ≠ c := oneLine.2.1
      have later := ih oneLine.2.2
      rw [unescape]
      by_cases isFeed : c = 'n'
      · simp [isFeed]
      · simp only [isFeed, if_false, decide_false, Bool.false_or]
        -- Every other escape denotes characters that are no line feeds.
        repeat' split
        all_goals simp [later, notFeed]
  | case3 c rest plain ih =>
      rw [List.mem_cons, not_or] at oneLine
      rw [unescape.eq_3 _ _ _ plain, List.mem_cons, ih oneLine.2]
      simp [oneLine.1]

def Lexeme.escapesFeed (lexeme : Lexeme) : Bool :=
  match lexeme.kind with
  | .stringLiteral | .singleQuoted => Text.escapesFeed (lexeme.text.drop 1).dropLast
  | _ => false

/-- The value of a token has a line feed exactly when the token escapes one. -/
theorem Lexeme.InClass.mem_argumentValue?_iff {lexeme : Lexeme} (inClass : lexeme.InClass)
    {value : Text} (denotes : lexeme.argumentValue? = some value) :
    '\n' ∈ value ↔ lexeme.escapesFeed = true := by
  have onLine : '\n' ∉ lexeme.text := by
    intro feed
    obtain ⟨inside, rfl⟩ := inClass.exists_eq_block feed
    cases denotes
  have insideOnLine : '\n' ∉ (lexeme.text.drop 1).dropLast := fun feed =>
    onLine (List.mem_of_mem_drop ((List.dropLast_sublist _).mem feed))
  rw [argumentValue?] at denotes
  rw [escapesFeed]
  split at denotes
  case h_1 isString =>
    cases denotes
    rw [isString]
    exact Text.mem_unescape_iff insideOnLine
  case h_2 isQuoted =>
    cases denotes
    rw [isQuoted]
    exact Text.mem_unescape_iff insideOnLine
  case h_8 => cases denotes
  all_goals
    next isBare =>
      cases denotes
      rw [isBare]
      simp [onLine]

theorem InSequence.exists_form_of_mem {α : Type} {form : α → List Lexeme → Prop} {items : List α}
    {lexemes : List Lexeme} (sequence : InSequence form items lexemes) {item : α}
    (member : item ∈ items) : ∃ front, form item front ∧ ∀ lexeme ∈ front, lexeme ∈ lexemes := by
  induction sequence with
  | nil => cases member
  | @cons _ _ front back first _ ih =>
      rcases List.mem_cons.mp member with rfl | later
      · exact ⟨front, first, fun lexeme among => List.mem_append_left back among⟩
      · obtain ⟨found, itsForm, inside⟩ := ih later
        exact ⟨found, itsForm, fun lexeme among => List.mem_append_right front (inside lexeme among)⟩

theorem DirectiveForm.exists_value {written : WrittenDirective} {lexemes : List Lexeme}
    (form : DirectiveForm written lexemes) {entry : Text × Text}
    (bound : entry ∈ written.bindings) :
    ∃ lexeme ∈ lexemes, lexeme.argumentValue? = some entry.2 := by
  cases form with
  | bare => cases bound
  | withArguments name arguments =>
      obtain ⟨front, binding, inside⟩ := arguments.exists_form_of_mem bound
      cases binding with
      | @binding _ _ _ value _ denotes =>
          refine ⟨value, ?_, denotes⟩
          have among := inside value (by simp)
          simp [among]

theorem Arguments.mem_foldl_insert {bindings : List (Text × Text)} {bound : Arguments}
    {entry : Text × Text}
    (member : entry ∈ (bindings.foldl (fun arguments binding =>
      arguments.insert binding.1 binding.2) bound).entries) :
    entry ∈ bindings ∨ entry ∈ bound.entries := by
  induction bindings generalizing bound with
  | nil => exact .inr member
  | cons binding rest ih =>
      rcases ih member with later | inserted
      · exact .inl (List.mem_cons_of_mem binding later)
      · rcases mem_insertEntry inserted with rfl | old
        · exact .inl List.mem_cons_self
        · exact .inr old

theorem WrittenDirective.mem_bindings {written : WrittenDirective} {entry : Text × Text}
    (member : entry ∈ written.directive.arguments.entries) : entry ∈ written.bindings :=
  (Arguments.mem_foldl_insert member).resolve_right List.not_mem_nil

namespace Directive

theorem exists_token_of_decode {text : Text} {directive : Directive}
    (decoded : decode text = .ok directive) :
    ∃ tokens, Token.ofText text = .ok tokens ∧ ∀ entry ∈ directive.arguments.entries,
      ∃ token ∈ tokens, token.argumentValue? = some entry.2 ∧
        ('\n' ∈ entry.2 ↔ token.escapesFeed = true) := by
  obtain ⟨tokens, lexemes, written, lexed, spells, form, rfl⟩ := decode_eq_ok_iff.mp decoded
  refine ⟨tokens, lexed, fun entry member => ?_⟩
  obtain ⟨lexeme, among, denotes⟩ := form.exists_value (WrittenDirective.mem_bindings member)
  rw [← spells] at among
  obtain ⟨token, tokenMember, rfl⟩ := List.mem_map.mp among
  have inClass := Token.inClass_of_ofText lexed token tokenMember
  exact ⟨token, tokenMember, denotes, inClass.mem_argumentValue?_iff denotes⟩

/-- A decoded directive comes back from its canonical text exactly when none of its values has a line
feed, and otherwise this text is refused for what is no token in it.  The values stand in the decoded
text as tokens, and one has a line feed exactly when its token escapes one. -/
theorem decode_encode_of_decode {text : Text} {directive : Directive}
    (decoded : decode text = .ok directive) :
    (decode directive.encode = .ok directive ↔
      ∀ entry ∈ directive.arguments.entries, '\n' ∉ entry.2) ∧
    ((∃ entry ∈ directive.arguments.entries, '\n' ∈ entry.2) →
      ∃ spans, spans ≠ [] ∧
        decode directive.encode = .error (spans.map SyntaxError.invalidToken)) ∧
    ∃ tokens, Token.ofText text = .ok tokens ∧ ∀ entry ∈ directive.arguments.entries,
      ∃ token ∈ tokens, token.argumentValue? = some entry.2 ∧
        ('\n' ∈ entry.2 ↔ token.escapesFeed = true) := by
  have keys := keysIdentified_of_decode decoded
  refine ⟨?_, fun feeds => ?_, exists_token_of_decode decoded⟩
  · rw [decode_encode_eq_ok_iff]
    exact forall₂_congr fun entry member => and_iff_right (keys entry member)
  · obtain ⟨spans, refused⟩ := ofText_encode_of_feed keys feeds
    obtain ⟨⟨item, member, isNone⟩, rfl⟩ := Token.ofText_eq_error_iff.mp refused
    refine ⟨_, ?_, by rw [decode, refused]⟩
    exact List.ne_nil_of_mem (List.mem_map_of_mem (List.mem_filter.mpr ⟨member, by simp [isNone]⟩))

def feedText : Text :=
  "@feed(b:\"\\n\")".toList

def feedDirective : Directive :=
  ⟨Name.literal "feed", Arguments.empty.insert ['b'] ['\n']⟩

/-- The escaped line feed is decoded, and written as itself. -/
theorem feedText_not_restored :
    decode feedText = .ok feedDirective ∧
    (decode feedDirective.encode = .ok feedDirective ↔
      ∀ entry ∈ feedDirective.arguments.entries, '\n' ∉ entry.2) ∧
    ((∃ entry ∈ feedDirective.arguments.entries, '\n' ∈ entry.2) →
      ∃ spans, spans ≠ [] ∧
        decode feedDirective.encode = .error (spans.map SyntaxError.invalidToken)) ∧
    ∃ tokens, Token.ofText feedText = .ok tokens ∧ ∀ entry ∈ feedDirective.arguments.entries,
      ∃ token ∈ tokens, token.argumentValue? = some entry.2 ∧
        ('\n' ∈ entry.2 ↔ token.escapesFeed = true) := by
  have decoded : decode feedText = .ok feedDirective := by decide +kernel
  exact ⟨decoded, decode_encode_of_decode decoded⟩

/-- Not every decoded directive comes back from its canonical text. -/
theorem decode_encode_not_always_restored :
    ¬ ∀ text directive, decode text = .ok directive → decode directive.encode = .ok directive := by
  intro restored
  have decoded : decode feedText = .ok feedDirective := by decide +kernel
  have refused : decode feedDirective.encode ≠ .ok feedDirective := by decide +kernel
  exact refused (restored feedText feedDirective decoded)

end Directive

end SdlWorkbench
