import SdlWorkbench.Text.Unprintable
/-!
Quoted text: the escapes of a string literal, the escapes of a directive value, and the form in
which an error message shows a text that may hold anything.
-/

namespace SdlWorkbench.Text

/-- Reads the inside of a string literal whose quotes are `quote`.  A backslash stands for a control
character before `n`, `t` and `r`, and for the next character before itself and the quote; before
anything else it stands for itself. -/
def unescape (quote : Char) : Text → Text
  | [] => []
  | '\\' :: c :: rest =>
      if c = 'n' then '\n' :: unescape quote rest
      else if c = 't' then '\t' :: unescape quote rest
      else if c = 'r' then '\r' :: unescape quote rest
      else if c = '\\' then '\\' :: unescape quote rest
      else if c = quote then c :: unescape quote rest
      else '\\' :: c :: unescape quote rest
  | c :: rest => c :: unescape quote rest

def escape : Text → Text
  | [] => []
  | c :: rest => if c = '"' ∨ c = '\\' then '\\' :: c :: escape rest else c :: escape rest

theorem unescape_escape (text : Text) : unescape '"' (escape text) = text := by
  induction text with
  | nil =>
      rfl
  | cons c rest inductionHypothesis =>
      by_cases isQuote : c = '"'
      · subst isQuote
        simp [escape, unescape, inductionHypothesis]
      · by_cases isBackslash : c = '\\'
        · subst isBackslash
          simp [escape, unescape, inductionHypothesis]
        · simp only [escape, isQuote, isBackslash, or_self, if_false]
          rw [unescape.eq_3]
          · rw [inductionHypothesis]
          · intro _ _ startsEscape
            exact absurd startsEscape isBackslash

/-- One character of a quoted message: a backslash escape for quotes, backslashes and the common
controls, the hexadecimal code point for every other character without a glyph. -/
def quotedChar (c : Char) : Text :=
  if c = '\x00' then ['\\', '0']
  else if c = '\t' then ['\\', 't']
  else if c = '\n' then ['\\', 'n']
  else if c = '\r' then ['\\', 'r']
  else if c = '"' then ['\\', '"']
  else if c = '\\' then ['\\', '\\']
  else if isUnprintable c then "\\u\x7b".toList ++ Nat.toDigits 16 c.toNat ++ "\x7d".toList
  else [c]

def quoted (text : Text) : Text :=
  '"' :: text.flatMap quotedChar ++ ['"']

end SdlWorkbench.Text
