import SdlWorkbench.Text.Basic
/-!
Patterns for names of files.

In a pattern `?` stands for one character, `*` for any text, and a class in brackets for one character
that is in it, or that is not in it when the class starts with `!`.  Two stars that stand alone between
slashes stand for any directories.
-/

namespace SdlWorkbench

inductive PatternFault where
  /-- More than two stars in a row. -/
  | longWildcard
  /-- Two stars that do not stand alone. -/
  | attachedRecursion
  /-- A class without its end. -/
  | openClass
deriving DecidableEq

/-- A fault of a pattern and the number of characters before it. -/
structure PatternError where
  position : Nat
  fault : PatternFault
deriving DecidableEq

def PatternFault.describe : PatternFault → String
  | longWildcard => "wildcards are either regular `*` or recursive `**`"
  | attachedRecursion => "recursive wildcards must form a single path component"
  | openClass => "invalid range pattern"

def PatternError.message (error : PatternError) : String :=
  s!"Pattern syntax error near position {error.position}: {error.fault.describe}"

inductive PatternToken where
  | character (c : Char)
  | anyCharacter
  | anyText
  /-- Two stars. -/
  | anyDirectories
  /-- A character in one of the ranges, or in none of them; both ends of a range belong to it. -/
  | oneOf (negated : Bool) (ranges : List (Char × Char))
deriving DecidableEq

namespace Pattern

/-- The ranges of a class: `a-z` is a range, and any other character stands for itself. -/
def ranges : Text → List (Char × Char)
  | low :: '-' :: high :: rest => (low, high) :: ranges rest
  | c :: rest => (c, c) :: ranges rest
  | [] => []

def readClass? (text : Text) : Option (PatternToken × Text) :=
  let negated := text.head? = some '!'
  match if negated then text.tail else text with
  | [] => none
  | first :: more =>
      if ']' ∈ more then
        some (.oneOf negated (ranges (first :: more.takeWhile (· ≠ ']'))),
          (more.dropWhile (· ≠ ']')).tail)
      else none

theorem dropWhile_length_le (p : Char → Bool) (text : Text) :
    (text.dropWhile p).length ≤ text.length :=
  (List.dropWhile_suffix p).length_le

theorem readClass?_length_le {text rest : Text} {token : PatternToken}
    (read : readClass? text = some (token, rest)) : rest.length ≤ text.length := by
  unfold readClass? at read
  simp only at read
  split at read
  · cases read
  · rename_i first more body
    have bodyLength : (first :: more).length ≤ text.length := by
      rw [← body]
      split
      · rw [List.length_tail]
        omega
      · exact Nat.le_refl _
    split at read
    · cases read
      have dropped := dropWhile_length_le (fun c => c ≠ ']') more
      rw [List.length_tail]
      rw [List.length_cons] at bodyLength
      omega
    · cases read

/-- Reads the rest of a pattern that has `total` characters.  `atStart` says whether it stands at the
start of the pattern or after a slash. -/
def readTokens (total : Nat) (atStart : Bool) (text : Text) :
    Except PatternError (List PatternToken) :=
  match text with
  | [] => .ok []
  | '?' :: rest => return .anyCharacter :: (← readTokens total false rest)
  | '[' :: rest =>
      match read : readClass? rest with
      | some (token, rest') =>
          have := readClass?_length_le read
          return token :: (← readTokens total false rest')
      | none => .error ⟨total - (rest.length + 1), .openClass⟩
  | '*' :: '*' :: '*' :: rest => .error ⟨total - (rest.length + 3) + 2, .longWildcard⟩
  | '*' :: '*' :: rest =>
      if !atStart then .error ⟨total - (rest.length + 2) - 1, .attachedRecursion⟩
      else
        match rest with
        | [] => .ok [.anyDirectories]
        | '/' :: rest => return .anyDirectories :: (← readTokens total true rest)
        | rest => .error ⟨total - rest.length, .attachedRecursion⟩
  | '*' :: rest => return .anyText :: (← readTokens total false rest)
  | c :: rest => return .character c :: (← readTokens total (c = '/') rest)
termination_by text.length
decreasing_by all_goals simp_all <;> omega

def tokens (text : Text) : Except PatternError (List PatternToken) :=
  readTokens text.length true text

end Pattern

def PatternToken.accepts (c : Char) : PatternToken → Bool
  | character other => c = other
  | oneOf negated ranges =>
      (ranges.any fun range => range.1 ≤ c && c ≤ range.2) != negated
  | _ => true

namespace Pattern

/-- All that may be left of a text after a part of it, the text itself first. -/
def endings : Text → List Text
  | [] => [[]]
  | c :: text => (c :: text) :: endings text

/-- What a part leaves of texts that are endings of one text, each shorter than the one before it.  The
answer is of this form again, so a star only has to look at the first of them. -/
def leaves (texts : List Text) : PatternToken → List Text
  | .anyText | .anyDirectories =>
      match texts with
      | [] => []
      | longest :: _ => endings longest
  | token =>
      texts.filterMap fun text =>
        match text with
        | [] => none
        | c :: rest => if token.accepts c then some rest else none

def remainders (tokens : List PatternToken) (texts : List Text) : List Text :=
  tokens.foldl leaves texts

/-- Whether a pattern stands for a text: whether it can leave nothing of it. -/
def accepts (tokens : List PatternToken) (text : Text) : Bool :=
  (remainders tokens [text]).contains []

end Pattern

inductive StepPattern where
  /-- A name without wildcards. -/
  | literal (name : Text)
  /-- Any directories, or none. -/
  | directories
  | wildcard (tokens : List PatternToken)
deriving DecidableEq

namespace StepPattern

def literal? : List PatternToken → Option Text
  | [] => some []
  | .character c :: rest => (literal? rest).map (c :: ·)
  | _ :: _ => none

def ofTokens (tokens : List PatternToken) : StepPattern :=
  match literal? tokens with
  | some name => literal name
  | none => if tokens.contains .anyDirectories then directories else wildcard tokens

def accepts (name : Text) : StepPattern → Bool
  | literal other => name = other
  | directories => true
  | wildcard tokens => Pattern.accepts tokens name

end StepPattern

end SdlWorkbench
