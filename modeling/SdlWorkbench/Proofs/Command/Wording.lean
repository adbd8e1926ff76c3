import SdlWorkbench.Command.Formatting
import SdlWorkbench.Proofs.Text.Lines
/-!
What commands write, letter by letter.

A printed text goes into a file with a line feed behind it, a JSON document is a list of parts between
brackets, and a count stands in a line of its own.
-/

namespace SdlWorkbench

theorem Text.asFile_eq (printed : Text) :
    asFile printed = if printed = [] then [] else printed ++ ['\n'] := by
  cases printed <;> rfl

namespace Data

/-- Parts between brackets, each on a line of its own that is one level deeper than the brackets. -/
def onLines (opening closing : Char) (depth : Nat) : List Text → Text
  | [] => [opening, closing]
  | first :: rest =>
      let line := '\n' :: List.replicate (2 * depth) ' '
      opening :: [','].intercalate ((first :: rest).map fun part => line ++ ' ' :: ' ' :: part) ++
        line ++ [closing]

theorem jsonLine_succ (depth : Nat) :
    jsonLine (depth + 1) = '\n' :: List.replicate (2 * depth) ' ' ++ [' ', ' '] := by
  rw [jsonLine, Nat.mul_add, List.replicate_add]
  rfl

theorem prettyItems_eq (depth : Nat) (items : List Data) :
    prettyItems depth items =
      items.flatMap fun item => ',' :: jsonLine depth ++ item.prettyJson depth := by
  induction items with
  | nil => rfl
  | cons item rest ih => rw [prettyItems, ih, List.flatMap_cons]

theorem prettyMembers_eq (depth : Nat) (members : List (Text × Data)) :
    prettyMembers depth members = members.flatMap fun member =>
      ',' :: jsonLine depth ++ (jsonText member.1 ++ ": ".toList ++ member.2.prettyJson depth) := by
  induction members with
  | nil => rfl
  | cons member rest ih =>
      rw [prettyMembers, ih, List.flatMap_cons]
      simp

theorem prettyJson_list (depth : Nat) (items : List Data) :
    (list items).prettyJson depth = onLines '[' ']' depth (items.map (prettyJson (depth + 1))) := by
  cases items with
  | nil =>
      rw [prettyJson]
      rfl
  | cons item rest =>
      rw [prettyJson, List.map_cons, onLines, Text.intercalate_map_cons, prettyItems_eq,
        jsonLine_succ]
      simp [jsonLine, List.flatMap_map]

theorem prettyJson_record (depth : Nat) (members : List (Text × Data)) :
    (record members).prettyJson depth = onLines '\x7b' '\x7d' depth (members.map fun member =>
      jsonText member.1 ++ ": ".toList ++ member.2.prettyJson (depth + 1)) := by
  cases members with
  | nil =>
      rw [prettyJson]
      rfl
  | cons member rest =>
      rw [prettyJson, List.map_cons, onLines, Text.intercalate_map_cons, prettyMembers_eq,
        jsonLine_succ]
      simp [jsonLine, List.flatMap_map]

end Data

theorem Style.notice_eq (style : Style) (line : String) :
    style.notice line =
      if style.format = .human ∧ style.quiet = false then line.toList ++ ['\n'] else [] := by
  rw [notice, Text.asLine]
  simp

end SdlWorkbench
