import SdlWorkbench.Toml.Scalar
/-!
Reading TOML documents.

The functions of the first half read one thing off the front of a text and give it with the rest.  The
second half puts key-value pairs and headers together: a table may be opened by one header only, and
dotted keys may add only to tables that dotted keys have made.
-/

namespace SdlWorkbench.Toml

/-- What was read and what is left, or nothing when the text cannot be read. -/
abbrev Reading (α : Type) := Option (α × Text)

def dropBlanks (text : Text) : Text :=
  text.dropWhile fun c => c = ' ' || c = '\t'

def isPlain (c : Char) : Bool :=
  c = '\t' || (0x20 ≤ c.toNat && c.toNat ≠ 0x7f)

def newline? : Text → Option Text
  | '\n' :: rest => some rest
  | '\r' :: '\n' :: rest => some rest
  | _ => none

def dropComment : Text → Text
  | '#' :: rest => rest.dropWhile isPlain
  | text => text

/-- What is left after the end of a line, which may hold blanks and a comment. -/
def lineEnd? (text : Text) : Option Text :=
  match dropComment (dropBlanks text) with
  | [] => some []
  | rest => newline? rest

def dropBlanksAndNewlines : Text → Text
  | [] => []
  | ' ' :: rest => dropBlanksAndNewlines rest
  | '\t' :: rest => dropBlanksAndNewlines rest
  | '\n' :: rest => dropBlanksAndNewlines rest
  | '\r' :: '\n' :: rest => dropBlanksAndNewlines rest
  | text => text

def dropFiller (text : Text) : Text :=
  let shorter := dropComment (dropBlanksAndNewlines text)
  if shorter.length < text.length then dropFiller shorter else text
termination_by text.length

/-- Reads pieces of a string up to its end.  `stop` gives what belongs to the string at its end and
what is left after it, and `step` reads one piece. -/
def readUntil (stop step : Text → Reading Text) (text : Text) : Reading Text :=
  match stop text with
  | some (last, rest) => some (last, rest)
  | none =>
      match step text with
      | none => none
      | some (piece, rest) =>
          if rest.length < text.length then
            (readUntil stop step rest).map fun more => (piece ++ more.1, more.2)
          else none
termination_by text.length

def codePoint? (count : Nat) (text : Text) : Reading Text :=
  let digits := text.take count
  let number := numberOf 16 digits
  if digits.length = count && digits.all (isDigitOf 16) && number.isValidChar then
    some ([Char.ofNat number], text.drop count)
  else none

def escape? : Text → Reading Text
  | 'b' :: rest => some (['\x08'], rest)
  | 't' :: rest => some (['\t'], rest)
  | 'n' :: rest => some (['\n'], rest)
  | 'f' :: rest => some (['\x0c'], rest)
  | 'r' :: rest => some (['\r'], rest)
  | '"' :: rest => some (['"'], rest)
  | '\\' :: rest => some (['\\'], rest)
  | 'u' :: rest => codePoint? 4 rest
  | 'U' :: rest => codePoint? 8 rest
  | _ => none

def plain? : Text → Reading Text
  | [] => none
  | c :: rest => if isPlain c then some ([c], rest) else none

def closing? (quote : Char) : Text → Reading Text
  | [] => none
  | c :: rest => if c = quote then some ([], rest) else none

/-- Recognizes three closing quotes.  Up to two more in front of them belong to the string. -/
def tripleClosing? (quote : Char) (text : Text) : Reading Text :=
  let run := (text.takeWhile (· = quote)).length
  if run < 3 then none
  else
    let inside := min (run - 3) 2
    some (List.replicate inside quote, text.drop (inside + 3))

def basicPiece? : Text → Reading Text
  | '\\' :: rest => escape? rest
  | text => plain? text

def longPiece? (text : Text) : Reading Text :=
  match newline? text with
  | some rest => some (['\n'], rest)
  | none => plain? text

/-- Reads one piece of a basic string over several lines.  A backslash at the end of a line joins it
with the next text that is not blank. -/
def longBasicPiece? : Text → Reading Text
  | '\\' :: rest =>
      match newline? (dropBlanks rest) with
      | some more => some ([], dropBlanksAndNewlines more)
      | none => escape? rest
  | text => longPiece? text

def dropFirstNewline (text : Text) : Text :=
  (newline? text).getD text

def shortString? : Text → Reading Text
  | '"' :: rest => readUntil (closing? '"') basicPiece? rest
  | '\x27' :: rest => readUntil (closing? '\x27') plain? rest
  | _ => none

def string? : Text → Reading Text
  | '"' :: '"' :: '"' :: rest =>
      readUntil (tripleClosing? '"') longBasicPiece? (dropFirstNewline rest)
  | '\x27' :: '\x27' :: '\x27' :: rest =>
      readUntil (tripleClosing? '\x27') longPiece? (dropFirstNewline rest)
  | text => shortString? text

def simpleKey? (text : Text) : Reading Text :=
  match shortString? text with
  | some result => some result
  | none =>
      let isKeyChar (c : Char) : Bool := c.isAlphanum || c = '_' || c = '-'
      match text.takeWhile isKeyChar with
      | [] => none
      | bare => some (bare, text.dropWhile isKeyChar)

def keyParts? (text : Text) : Reading (List Text) :=
  match simpleKey? text with
  | none => none
  | some (first, rest) =>
      match dropBlanks rest with
      | '.' :: afterPoint =>
          let next := dropBlanks afterPoint
          if next.length < text.length then
            (keyParts? next).map fun more => (first :: more.1, more.2)
          else none
      | _ => some ([first], rest)
termination_by text.length

/-- Arrays and inline tables may be nested up to this depth, and a key may have this many parts. -/
def nestingLimit : Nat :=
  79

def key? (text : Text) : Reading (List Text) :=
  (keyParts? text).filter fun result => result.1.length ≤ nestingLimit

/-- Reads the word that a scalar without quotes is.  A date and a time of day may have a space between
them. -/
def word (text : Text) : Text × Text :=
  let isWordChar (c : Char) : Bool := c.isAlphanum || c = '_' || c = '+' || c = '-' || c = '.' ||
    c = ':'
  let first := text.takeWhile isWordChar
  match text.dropWhile isWordChar with
  | ' ' :: c :: rest =>
      if c.isDigit && dropDate? first = some [] then
        (first ++ ' ' :: (c :: rest).takeWhile isWordChar, (c :: rest).dropWhile isWordChar)
      else (first, ' ' :: c :: rest)
  | rest => (first, rest)

inductive Origin where
  /-- It was named on the way to another table by a header. -/
  | passed
  | dotted
  | opened
deriving DecidableEq

inductive Node where
  | value (data : Data)
  | table (origin : Origin) (entries : List (Text × Node))
  /-- The tables of an array of tables: those before the last, and the last. -/
  | tables (earlier : List (List (Text × Node))) (last : List (Text × Node))

abbrev Entries := List (Text × Node)

def rebind (key : Text) (node : Node) (entries : Entries) : Entries :=
  entries.map fun entry => if entry.1 = key then (key, node) else entry

/-- Changes the table that a path leads to and makes the tables on the way that are missing.  A path of
dotted keys does not go through a table that was opened by a header. -/
def modifyAt (dotted : Bool) (change : Origin → Entries → Option Entries) :
    Origin → List Text → Entries → Option Entries
  | origin, [], entries => change origin entries
  | _, key :: path, entries =>
      match entries.lookup key with
      | none =>
          let origin := if dotted then .dotted else .passed
          (modifyAt dotted change origin path []).map fun child =>
            entries ++ [(key, .table origin child)]
      | some (.value _) => none
      | some (.tables earlier last) =>
          (modifyAt dotted change .opened path last).map fun child =>
            rebind key (.tables earlier child) entries
      | some (.table origin child) =>
          if dotted && origin = .opened then none
          else
            (modifyAt dotted change origin path child).map fun child =>
              rebind key (.table origin child) entries

def bind? (key : List Text) (data : Data) (entries : Entries) : Option Entries :=
  let path := key.dropLast
  modifyAt true (fun origin entries =>
    match key.getLast? with
    | none => none
    | some last =>
        if (entries.lookup last).isSome || (!path.isEmpty && origin ≠ .dotted) then none
        else some (entries ++ [(last, .value data)])) .opened path entries

def openTable? (path : List Text) (entries : Entries) : Option Entries :=
  modifyAt false (fun _ entries =>
    match path.getLast? with
    | none => none
    | some last =>
        match entries.lookup last with
        | none => some (entries ++ [(last, .table .opened [])])
        | some (.table .passed child) => some (rebind last (.table .opened child) entries)
        | some _ => none) .opened path.dropLast entries

def addTable? (path : List Text) (entries : Entries) : Option Entries :=
  modifyAt false (fun _ entries =>
    match path.getLast? with
    | none => none
    | some last =>
        match entries.lookup last with
        | none => some (entries ++ [(last, .tables [] [])])
        | some (.tables earlier child) =>
            some (rebind last (.tables (earlier ++ [child]) []) entries)
        | some _ => none) .opened path.dropLast entries

mutual

def Node.toData : Node → Data
  | .value data => data
  | .table _ entries => .record (entriesToData entries)
  | .tables earlier last => .list (tablesToData earlier ++ [.record (entriesToData last)])

def entriesToData : List (Text × Node) → List (Text × Data)
  | [] => []
  | (key, node) :: rest => (key, node.toData) :: entriesToData rest

def tablesToData : List (List (Text × Node)) → List Data
  | [] => []
  | entries :: rest => .record (entriesToData entries) :: tablesToData rest

end

/-- Reads the items of an array after its opening bracket.  The last one may have a comma after it. -/
def items? (item? : Text → Reading Data) (text : Text) : Reading (List Data) :=
  match dropFiller text with
  | ']' :: rest => some ([], rest)
  | start =>
      match item? start with
      | none => none
      | some (item, afterItem) =>
          match dropFiller afterItem with
          | ']' :: rest => some ([item], rest)
          | ',' :: rest =>
              if rest.length < text.length then
                (items? item? rest).map fun more => (item :: more.1, more.2)
              else none
          | _ => none
termination_by text.length

def pair? (value? : Text → Reading Data) (text : Text) : Reading (List Text × Data) :=
  match key? text with
  | none => none
  | some (key, afterKey) =>
      match dropBlanks afterKey with
      | '=' :: afterSign => (value? (dropBlanks afterSign)).map fun value =>
          ((key, value.1), value.2)
      | _ => none

/-- Reads the pairs of an inline table after those that are bound already.  There is at least one. -/
def pairs? (value? : Text → Reading Data) (bound : Entries) (text : Text) : Reading Entries :=
  match pair? value? (dropBlanks text) with
  | none => none
  | some ((key, data), afterPair) =>
      match bind? key data bound with
      | none => none
      | some entries =>
          match dropBlanks afterPair with
          | '\x7d' :: rest => some (entries, rest)
          | ',' :: rest =>
              if rest.length < text.length then pairs? value? entries rest else none
          | _ => none
termination_by text.length

def simpleValue? (text : Text) : Reading Data :=
  match text with
  | '"' :: _ => (string? text).map fun result => (.text result.1, result.2)
  | '\x27' :: _ => (string? text).map fun result => (.text result.1, result.2)
  | _ =>
      let (word, rest) := word text
      (scalar? word).map fun data => (data, rest)

def value? : Nat → Text → Reading Data
  | 0 => simpleValue?
  | depth + 1 => fun text =>
      match text with
      | '[' :: rest => (items? (value? depth) rest).map fun result => (.list result.1, result.2)
      | '\x7b' :: rest =>
          match dropBlanks rest with
          | '\x7d' :: after => some (.record [], after)
          | _ => (pairs? (value? depth) [] rest).map fun result =>
              (.record (entriesToData result.1), result.2)
      | _ => simpleValue? text

/-- Reads the lines of a document.  Pairs are bound in the table that `here` leads to. -/
def lines? (entries : Entries) (here : List Text) (text : Text) : Option Entries :=
  let finish (entries : Entries) (here : List Text) (rest : Text) : Option Entries :=
    match lineEnd? rest with
    | none => none
    | some next => if next.length < text.length then lines? entries here next else none
  match dropBlanks text with
  | [] => some entries
  | '[' :: '[' :: rest =>
      match key? (dropBlanks rest) with
      | none => none
      | some (path, afterKey) =>
          match dropBlanks afterKey with
          | ']' :: ']' :: rest =>
              (addTable? path entries).bind fun entries => finish entries path rest
          | _ => none
  | '[' :: rest =>
      match key? (dropBlanks rest) with
      | none => none
      | some (path, afterKey) =>
          match dropBlanks afterKey with
          | ']' :: rest => (openTable? path entries).bind fun entries => finish entries path rest
          | _ => none
  | start =>
      match lineEnd? start with
      | some next => if next.length < text.length then lines? entries here next else none
      | none =>
          match pair? (value? nestingLimit) start with
          | none => none
          | some ((key, data), rest) =>
              (modifyAt false (fun _ => bind? key data) .opened here entries).bind fun entries =>
                finish entries here rest
termination_by text.length

/-- Reads a document.  A byte order mark in front of it is ignored. -/
def read? (text : Text) : Option Data :=
  let content := match text with
    | '\ufeff' :: rest => rest
    | text => text
  (lines? [] [] content).map fun entries => .record (entriesToData entries)

end SdlWorkbench.Toml
