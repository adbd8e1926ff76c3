import SdlWorkbench.Files.Pattern
import SdlWorkbench.Files.Store
/-!
Searching a store for the paths that a pattern stands for.

A pattern is followed step by step from the working directory, or from the root.  Paths are found in
the order of their names, a directory before what is in it.  The search fails at the first directory
whose path has become too long to list it.
-/

namespace SdlWorkbench

inductive SearchError where
  | badPattern (error : PatternError)
  | unlisted (path : Text) (fault : FileFault)
deriving DecidableEq

def SearchError.message : SearchError → String
  | badPattern error => error.message
  | unlisted path fault => s!"attempting to read `{path}` resulted in an error: {fault.message}"

structure Place where
  path : Text
  /-- Where the file or directory lies.  There is none when the path leads nowhere. -/
  location? : Option Location

namespace Pattern

def readSteps : List Text → Except PatternError (List StepPattern)
  | [] => .ok []
  | piece :: rest => return .ofTokens (← tokens piece) :: (← readSteps rest)

/-- Runs of steps that stand for any directories are the same as one of them. -/
def collapse : List StepPattern → List StepPattern
  | .directories :: rest =>
      match collapse rest with
      | .directories :: more => .directories :: more
      | steps => .directories :: steps
  | step :: rest => step :: collapse rest
  | [] => []

/-- The pieces of a pattern; an empty piece at the end is not counted. -/
def pieces (text : Text) : List Text :=
  let pieces := Path.pieces text
  if pieces.getLast? = some [] then pieces.dropLast else pieces

end Pattern

namespace Store

/-- The path of what is reached from a directory by the given names.  Nothing stands for the working
directory in it. -/
def extend (path : Text) (names : List Text) : Text :=
  let relative := ['/'].intercalate names
  if Path.isCurrent path then relative else Path.join path relative

def isDirectoryAt (store : Store) (place : Place) : Bool :=
  place.location?.any fun location => (store.fileAt? location).isNone

/-- The place with the given path that a name leads to.  A path that is too long leads nowhere. -/
def placeAfter (store : Store) (place : Place) (name path : Text) : Place where
  path := path
  location? :=
    if pathLimit < path.utf8Length then none
    else place.location?.bind fun location => (store.enter location name).toOption

/-- The location of the directory that is to be listed at a place, if it is one. -/
def listing (store : Store) (place : Place) : Except SearchError (Option Location) :=
  if !store.isDirectoryAt place then .ok none
  else if pathLimit < place.path.utf8Length then .error (.unlisted place.path .nameTooLong)
  else .ok place.location?

def placesBelow (store : Store) (place : Place) :
    Except SearchError (List (List Text × Place)) := do
  match ← store.listing place with
  | none => return []
  | some location =>
      return (store.below location).map fun names =>
        (names, ⟨extend place.path names, some (location ++ names)⟩)

/-- The dots that a wildcard stands for.  Only a wildcard that starts with a dot stands for one. -/
def dots (tokens : List PatternToken) : List Text :=
  if tokens.head? = some (.character '.') then
    [['.', '.'], ['.']].filter (Pattern.accepts tokens)
  else []

def expand (store : Store) : List StepPattern → Place → Except SearchError (List Place)
  | [], place => .ok [place]
  | .literal name :: rest, place =>
      let next := store.placeAfter place name (extend place.path [name])
      let found :=
        if name = ['.'] ∨ name = ['.', '.'] then store.isDirectoryAt place
        else next.location?.isSome
      if found then store.expand rest next else .ok []
  | .wildcard tokens :: rest, place => do
      let children := (← store.placesBelow place).filter fun child =>
        child.1.length = 1 && child.1.all (Pattern.accepts tokens)
      let special := if store.isDirectoryAt place then dots tokens else []
      let first ← special.flatMapM fun name =>
        store.expand rest (store.placeAfter place name (Path.join place.path name))
      return first ++ (← children.flatMapM fun child => store.expand rest child.2)
  | [.directories], place => do
      (← store.placesBelow place).flatMapM fun child => do
        let directory ← store.listing child.2
        return if directory.isSome then [child.2] else []
  | .directories :: next :: rest, place => do
      (← store.placesBelow place).flatMapM fun child => do
        let found ←
          if child.1.getLast?.all fun name => next.accepts name then store.expand rest child.2
          else .ok []
        let _ ← store.listing child.2
        return found

/-- The paths that a pattern stands for.  A pattern that ends with a slash stands for directories. -/
def search (store : Store) (pattern : Text) : Except SearchError (List Text) := do
  let _ ← (Pattern.tokens pattern).mapError .badPattern
  let (start, text) := match pattern with
    | '/' :: rest => (⟨['/'], some [['/']]⟩, rest)
    | text => (⟨['.'], some []⟩, text)
  let steps ← (Pattern.readSteps (Pattern.pieces text)).mapError .badPattern
  let found ← store.expand (Pattern.collapse steps) start
  let onlyDirectories := pattern.getLast? = some '/'
  return (found.filter fun place => !onlyDirectories || store.isDirectoryAt place).map Place.path

end Store

end SdlWorkbench
