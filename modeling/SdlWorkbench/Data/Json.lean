import SdlWorkbench.Data.Basic
/-!
JSON texts of structured data, on one line or with one member or item on each line.
-/

namespace SdlWorkbench.Data

def fourDigits (n : Nat) : Text :=
  let digits := Nat.toDigits 16 n
  List.replicate (4 - digits.length) '0' ++ digits

def jsonChar (c : Char) : Text :=
  if c = '"' then ['\\', '"']
  else if c = '\\' then ['\\', '\\']
  else if c = '\n' then ['\\', 'n']
  else if c = '\r' then ['\\', 'r']
  else if c = '\t' then ['\\', 't']
  else if c = '\x08' then ['\\', 'b']
  else if c = '\x0c' then ['\\', 'f']
  else if c.toNat < 0x20 then '\\' :: 'u' :: fourDigits c.toNat
  else [c]

def jsonText (text : Text) : Text :=
  '"' :: text.flatMap jsonChar ++ ['"']

def jsonScalar : Data → Text
  | boolean true => "true".toList
  | boolean false => "false".toList
  | integer value => (toString value).toList
  | literal spelling => spelling
  | text value => jsonText value
  | _ => "null".toList

mutual

def compactJson : Data → Text
  | list items => '[' :: compactItems items ++ [']']
  | record members => '\x7b' :: compactMembers members ++ ['\x7d']
  | scalar => jsonScalar scalar

def compactItems : List Data → Text
  | [] => []
  | [item] => compactJson item
  | item :: rest => compactJson item ++ ',' :: compactItems rest

def compactMembers : List (Text × Data) → Text
  | [] => []
  | [(key, value)] => jsonText key ++ ':' :: compactJson value
  | (key, value) :: rest => jsonText key ++ ':' :: compactJson value ++ ',' :: compactMembers rest

end

/-- The start of a line at the given depth; a level is two spaces wide. -/
def jsonLine (depth : Nat) : Text :=
  '\n' :: List.replicate (2 * depth) ' '

mutual

/-- A value over several lines, whose own lines are at the given depth. -/
def prettyJson (depth : Nat) : Data → Text
  | list [] => ['[', ']']
  | list (item :: rest) =>
      '[' :: jsonLine (depth + 1) ++ prettyJson (depth + 1) item ++ prettyItems (depth + 1) rest ++
        jsonLine depth ++ [']']
  | record [] => ['\x7b', '\x7d']
  | record ((key, value) :: rest) =>
      '\x7b' :: jsonLine (depth + 1) ++ jsonText key ++ ": ".toList ++
        prettyJson (depth + 1) value ++ prettyMembers (depth + 1) rest ++ jsonLine depth ++ ['\x7d']
  | scalar => jsonScalar scalar

def prettyItems (depth : Nat) : List Data → Text
  | [] => []
  | item :: rest =>
      ',' :: jsonLine depth ++ prettyJson depth item ++ prettyItems depth rest

def prettyMembers (depth : Nat) : List (Text × Data) → Text
  | [] => []
  | (key, value) :: rest =>
      ',' :: jsonLine depth ++ jsonText key ++ ": ".toList ++ prettyJson depth value ++
        prettyMembers depth rest

end

end SdlWorkbench.Data
