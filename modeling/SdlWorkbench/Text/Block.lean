import SdlWorkbench.Text.Basic
/-!
The value of a block string.

The lines between the triple quotes are written at the indentation of their surroundings.  The value
is what is left when that indentation and the blank lines at both ends are taken away.
-/

namespace SdlWorkbench.Text

def indentation (line : Text) : Nat :=
  (line.takeWhile fun c => c = ' ' || c = '\t').length

/-- The least indentation of the lines that are not blank, zero when all are. -/
def commonIndentation (lines : List Text) : Nat :=
  ((lines.filter fun line => !isBlank line).map indentation).min?.getD 0

/-- Takes `width` bytes of indentation from a line.  A line that is too short, or whose cut would fall
inside a character, is blank and becomes empty. -/
def outdent (width : Nat) (line : Text) : Text :=
  (dropBytes? width line).getD []

/-- Takes the common indentation from every line but the first. -/
def outdentTail : List Text → List Text
  | [] => []
  | first :: rest => first :: rest.map (outdent (commonIndentation rest))

/-- Removes the blank lines before the first and after the last line that is not blank. -/
def trimBlankLines (lines : List Text) : List Text :=
  ((lines.dropWhile isBlank).reverse.dropWhile isBlank).reverse

/-- The value of the text between the triple quotes of a block string. -/
def blockValue (inside : Text) : Text :=
  joinLines (trimBlankLines (outdentTail (lines inside)))

end SdlWorkbench.Text
