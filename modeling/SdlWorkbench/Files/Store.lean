import SdlWorkbench.Files.Path
/-!
A store of files, as the commands see it.

A store is a value: it lists every file with its content, and every directory that holds nothing.
Any other directory is there because a file lies below it.  `Store.locate` follows the spelling of a
path name by name, and reading and writing go through it.  Paths and names have a greatest length, and
no path holds the character NUL.
-/

namespace SdlWorkbench

/-- Where a file or directory lies: the names that lead to it from the working directory.  A location
outside the working directory starts with the name `..`, or with `/` when it is counted from the
root. -/
abbrev Location := List Text

inductive FileContent where
  | text (text : Text)
  /-- Bytes that are no UTF-8 text. -/
  | binary (bytes : List UInt8)
deriving DecidableEq

inductive FileFault where
  | nulInPath
  | nameTooLong
  | missing
  | notDirectory
  | isDirectory
  | undecodable
deriving DecidableEq

def FileFault.message : FileFault → String
  | nulInPath => "file name contained an unexpected NUL byte"
  | nameTooLong => "File name too long (os error 36)"
  | missing => "No such file or directory (os error 2)"
  | notDirectory => "Not a directory (os error 20)"
  | isDirectory => "Is a directory (os error 21)"
  | undecodable => "stream did not contain valid UTF-8"

structure Store where
  files : List (Location × FileContent)
  emptyDirectories : List Location := []
deriving DecidableEq

namespace Store

def fileAt? (store : Store) (location : Location) : Option FileContent :=
  store.files.lookup location

def locations (store : Store) : List Location :=
  store.files.map Prod.fst ++ store.emptyDirectories

def isAnchor (location : Location) : Bool :=
  location = [['/']] || location.all fun name => name = ['.', '.']

def hasDirectory (store : Store) (location : Location) : Bool :=
  isAnchor location || store.emptyDirectories.contains location ||
    store.locations.any fun other => location.isPrefixOf other && location ≠ other

/-- The directory above a directory.  Above the root is the root. -/
def parent (location : Location) : Location :=
  if location = [['/']] then location
  else if isAnchor location then location ++ [['.', '.']]
  else location.dropLast

/-- The location that a path leads to when all its names lead on. -/
def locationOf (path : Text) : Location :=
  (Path.steps path).foldl (fun location step =>
    match step with
    | .root => [['/']]
    | .current => location
    | .parent => parent location
    | .name name => location ++ [name]) []

def pathOf : Location → Text
  | ['/'] :: rest => '/' :: ['/'].intercalate rest
  | location => ['/'].intercalate location

def ofPaths (files : List (Text × FileContent)) (emptyDirectories : List Text) : Store where
  files := files.map fun file => (locationOf file.1, file.2)
  emptyDirectories := emptyDirectories.map locationOf

def nameLimit : Nat :=
  255

def pathLimit : Nat :=
  4095

def enter (store : Store) (location : Location) (piece : Text) : Except FileFault Location :=
  if !store.hasDirectory location then .error .notDirectory
  else if piece = [] ∨ piece = ['.'] then .ok location
  else if piece = ['.', '.'] then .ok (parent location)
  else if nameLimit < piece.utf8Length then .error .nameTooLong
  else
    let next := location ++ [piece]
    if (store.fileAt? next).isSome || store.hasDirectory next then .ok next else .error .missing

def locate (store : Store) (path : Text) : Except FileFault Location :=
  if path.contains '\x00' then .error .nulInPath
  else if pathLimit < path.utf8Length then .error .nameTooLong
  else
    match path with
    | [] => .error .missing
    | '/' :: rest => (Path.pieces rest).foldlM store.enter [['/']]
    | _ => (Path.pieces path).foldlM store.enter []

def contains (store : Store) (path : Text) : Bool :=
  (store.locate path).isOk

def isFile (store : Store) (path : Text) : Bool :=
  match store.locate path with
  | .ok location => (store.fileAt? location).isSome
  | .error _ => false

def isDirectory (store : Store) (path : Text) : Bool :=
  match store.locate path with
  | .ok location => (store.fileAt? location).isNone
  | .error _ => false

def read (store : Store) (path : Text) : Except FileFault Text :=
  match store.locate path with
  | .error fault => .error fault
  | .ok location =>
      match store.fileAt? location with
      | some (.text text) => .ok text
      | some (.binary _) => .error .undecodable
      | none => .error .isDirectory

def replace (location : Location) (content : FileContent) :
    List (Location × FileContent) → List (Location × FileContent)
  | [] => []
  | (other, old) :: rest =>
      if other = location then (other, content) :: rest
      else (other, old) :: replace location content rest

/-- Replaces the text of the file that a path names.  A path that names no file changes nothing. -/
def write (store : Store) (path text : Text) : Store :=
  match store.locate path with
  | .ok location => { store with files := replace location (.text text) store.files }
  | .error _ => store

/-- The starts of a list that are not empty, shortest first. -/
def starts {α : Type} : List α → List (List α)
  | [] => []
  | first :: rest => [first] :: (starts rest).map (first :: ·)

/-- What lies below a directory: the names that lead from it to each file and directory, in order, a
directory before what is in it. -/
def below (store : Store) (location : Location) : List Location :=
  let relative := store.locations.filterMap fun other =>
    let rest := other.drop location.length
    if location.isPrefixOf other && rest.head? ≠ some ['.', '.'] && rest.head? ≠ some ['/'] then
      some rest
    else none
  ((relative.flatMap starts).mergeSort fun left right => !decide (right < left)).eraseReps

theorem replace_map_fst (location : Location) (content : FileContent)
    (files : List (Location × FileContent)) :
    (replace location content files).map Prod.fst = files.map Prod.fst := by
  induction files with
  | nil => rfl
  | cons file rest inductionHypothesis =>
      rcases file with ⟨other, old⟩
      simp only [replace]
      split
      · rfl
      · simp only [List.map_cons, inductionHypothesis]

theorem lookup_replace_isSome (location other : Location) (content : FileContent)
    (files : List (Location × FileContent)) :
    ((replace location content files).lookup other).isSome = (files.lookup other).isSome := by
  induction files with
  | nil => rfl
  | cons file rest inductionHypothesis =>
      rcases file with ⟨name, old⟩
      simp only [replace]
      split
      · simp only [List.lookup_cons]
        cases other == name <;> rfl
      · simp only [List.lookup_cons]
        cases other == name
        · exact inductionHypothesis
        · rfl

theorem lookup_replace_self (location : Location) (content : FileContent)
    (files : List (Location × FileContent)) (present : (files.lookup location).isSome = true) :
    (replace location content files).lookup location = some content := by
  induction files with
  | nil => simp at present
  | cons file rest inductionHypothesis =>
      rcases file with ⟨name, old⟩
      simp only [replace]
      by_cases same : name = location
      · simp [same]
      · rw [if_neg same]
        have different : (location == name) = false := beq_false_of_ne (Ne.symm same)
        simp only [List.lookup_cons, different] at present ⊢
        exact inductionHypothesis present

theorem lookup_replace_other {location other : Location} (content : FileContent)
    (files : List (Location × FileContent)) (different : other ≠ location) :
    (replace location content files).lookup other = files.lookup other := by
  induction files with
  | nil => rfl
  | cons file rest inductionHypothesis =>
      rcases file with ⟨name, old⟩
      simp only [replace]
      by_cases same : name = location
      · rw [if_pos same]
        have distinct : (other == name) = false := beq_false_of_ne (same ▸ different)
        simp only [List.lookup_cons, distinct]
      · rw [if_neg same]
        simp only [List.lookup_cons, inductionHypothesis]

theorem locate_write (store : Store) (path text other : Text) :
    (store.write path text).locate other = store.locate other := by
  unfold write
  split
  · rename_i location _
    have directories : ∀ place, Store.hasDirectory
        { store with files := replace location (.text text) store.files } place =
          store.hasDirectory place := by
      intro place
      simp only [hasDirectory, locations, replace_map_fst]
    have enters : Store.enter { store with files := replace location (.text text) store.files } =
        store.enter := by
      funext place piece
      simp only [enter, directories, fileAt?, lookup_replace_isSome]
      rfl
    unfold locate
    rw [enters]
  · rfl

end Store

end SdlWorkbench
