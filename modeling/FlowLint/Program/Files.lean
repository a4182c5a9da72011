import FlowLint.Service.Handler

/-!
# Files that the service can see

A directory with files in it. Paths outside of it lead nowhere, except through the directories
above it.

* `FileSpace.find?` follows a path step by step; a step from what is not a directory fails.
* `FileSpace.openStore` simplifies a path first, so that a step up only takes back the step
  before it.
-/

namespace FlowLint

/-- What is found at a path. -/
inductive FileEntry where
  | directory
  | file (content : String)
  deriving Repr, DecidableEq, Inhabited

/-- One step of a path. -/
abbrev PathStep := List Char

/-- A directory and the files in it, by their paths below it. -/
structure FileSpace where
  root : String
  files : List (String × String) := []

namespace FileSpace

/-- The parts of a path between slashes. -/
def splitPath : List Char → List PathStep
  | [] => [[]]
  | c :: cs =>
    match splitPath cs with
    | [] => [[c]]
    | part :: rest => if c = '/' then [] :: part :: rest else (c :: part) :: rest

/-- The parts of a path that lead somewhere. -/
def steps (path : String) : List PathStep :=
  (splitPath path.toList).filter fun part => !part.isEmpty && part != ['.']

/-- The step to the directory above. -/
def up : PathStep := ['.', '.']

/-- What is found after steps from the top, none of which leads up. -/
def entry? (space : FileSpace) (wanted : List PathStep) : Option FileEntry :=
  let root := steps space.root
  let known := space.files.map fun (name, content) => (root ++ steps name, content)
  match known.find? (·.1 = wanted) with
  | some (_, content) => some (.file content)
  | none =>
    if (root :: known.map (·.1.dropLast)).any fun dir => wanted.isPrefixOf dir then some .directory
    else none

/-- Follow steps from a place; each starts in a directory. -/
def follow? (space : FileSpace) (place : List PathStep) : List PathStep → Option (List PathStep)
  | [] => some place
  | step :: rest =>
    if space.entry? place != some .directory then none
    else if step = up then follow? space place.dropLast rest
    else follow? space (place ++ [step]) rest

/-- What is found at an absolute path. -/
def find? (space : FileSpace) (path : String) : Option FileEntry :=
  (space.follow? [] (steps path)).bind space.entry?

/-- Steps without those that lead up: each takes back the one before it. -/
def simplified (path : String) : List PathStep :=
  (steps path).foldl (fun done step => if step = up then done.dropLast else done ++ [step]) []

/-- Can a store be opened at a path? A path that does not start at the top is always free, and a
file without content, or with a single byte, counts as new. -/
def openStore (space : FileSpace) (path : String) : Except StoreError Unit :=
  if !isAbsolutePath path then .ok ()
  else
    let place := simplified path
    match space.entry? place with
    | some (.file content) =>
      if content.utf8ByteSize ≤ 1 then .ok () else .error (.notAStore path)
    | some .directory => .error (.cannotOpen path)
    | none =>
      if space.entry? place.dropLast = some .directory then .ok () else .error (.cannotOpen path)

end FileSpace

end FlowLint
