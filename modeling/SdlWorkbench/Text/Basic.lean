/-!
Text as a list of characters.

Everything that is read, stored or written is a `Text`.  Positions in a text are counted in UTF-8
bytes, so this module also fixes the measure `utf8Length` and the cut `dropBytes?` that refuses to
split a character.  Blankness and trimming follow the Unicode property White_Space.
-/

namespace SdlWorkbench

abbrev Text := List Char

instance : ToString Text := ⟨String.ofList⟩

namespace Text

/-- The ranges of the Unicode property White_Space, both ends included. -/
def whiteSpaceRanges : List (Nat × Nat) :=
  [(0x09, 0x0d), (0x20, 0x20), (0x85, 0x85), (0xa0, 0xa0), (0x1680, 0x1680), (0x2000, 0x200a),
    (0x2028, 0x2029), (0x202f, 0x202f), (0x205f, 0x205f), (0x3000, 0x3000)]

def isWhiteSpace (c : Char) : Bool :=
  whiteSpaceRanges.any fun range => range.1 ≤ c.toNat && c.toNat ≤ range.2

def isBlank (text : Text) : Bool :=
  text.all isWhiteSpace

/-- Removes the longest run of characters from the end that all satisfy `p`. -/
def dropTrailing (p : Char → Bool) : Text → Text
  | [] => []
  | c :: rest =>
      match dropTrailing p rest with
      | [] => if p c then [] else [c]
      | kept => c :: kept

def trim (text : Text) : Text :=
  dropTrailing isWhiteSpace (text.dropWhile isWhiteSpace)

def utf8Length : Text → Nat
  | [] => 0
  | c :: rest => c.utf8Size + utf8Length rest

/-- What is left after the first `count` bytes of the UTF-8 form.  There is no answer when the text
is shorter or when the cut would fall inside a character. -/
def dropBytes? : Nat → Text → Option Text
  | 0, text => some text
  | _ + 1, [] => none
  | count + 1, c :: rest =>
      if c.utf8Size ≤ count + 1 then dropBytes? (count + 1 - c.utf8Size) rest else none

/-- The lines of a text.  A line ends at a line feed, and one carriage return before that line feed
belongs to the line end.  A text that ends with a line feed has no further, empty line. -/
def lines : Text → List Text
  | [] => []
  | '\n' :: rest => [] :: lines rest
  | '\r' :: '\n' :: rest => [] :: lines rest
  | c :: rest =>
      match lines rest with
      | [] => [[c]]
      | line :: more => (c :: line) :: more

def joinLines (lines : List Text) : Text :=
  ['\n'].intercalate lines

def includes : Text → Text → Bool
  | [], part => part.isEmpty
  | c :: rest, part => part.isPrefixOf (c :: rest) || includes rest part

def padRight (width : Nat) (text : Text) : Text :=
  text ++ List.replicate (width - text.length) ' '

theorem utf8Length_append (left right : Text) :
    utf8Length (left ++ right) = utf8Length left + utf8Length right := by
  induction left with
  | nil =>
      simp [utf8Length]
  | cons c rest inductionHypothesis =>
      simp only [List.cons_append, utf8Length, inductionHypothesis]
      omega

theorem utf8Length_pos {text : Text} (nonempty : text ≠ []) : 0 < utf8Length text := by
  cases text with
  | nil =>
      contradiction
  | cons c rest =>
      have := c.utf8Size_pos
      simp only [utf8Length]
      omega

theorem dropBytes?_append (left right : Text) :
    dropBytes? (utf8Length left) (left ++ right) = some right := by
  induction left with
  | nil =>
      simp [utf8Length, dropBytes?]
  | cons c rest inductionHypothesis =>
      have positive := c.utf8Size_pos
      simp only [utf8Length, List.cons_append]
      cases sizeEq : c.utf8Size + utf8Length rest with
      | zero =>
          omega
      | succ count =>
          simp only [dropBytes?]
          rw [if_pos (by omega)]
          have : count + 1 - c.utf8Size = utf8Length rest := by omega
          rw [this, inductionHypothesis]

end Text

end SdlWorkbench
