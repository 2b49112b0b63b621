import FirstCall.Bytes
import FirstCall.Cause

/-!
# Files

The files that a run can see: a tree of directories, one of which is the working directory. A
path is followed one name at a time; every step needs a directory to start from. Writing
replaces a file or makes one in a directory that exists; it never makes a directory.
-/

namespace FirstCall

namespace Path

def segments : List Char → List (List Char)
  | [] => [[]]
  | c :: rest =>
    if c = '/' then [] :: segments rest
    else
      match segments rest with
      | [] => [[c]]
      | first :: others => (c :: first) :: others

def join (dir name : String) : String :=
  if dir = "" then name
  else if dir.toList.getLast? = some '/' then dir ++ name
  else dir ++ "/" ++ name

def parent (path : String) : String :=
  String.intercalate "/" ((segments path.toList).dropLast.map String.ofList)

end Path

/-- The names that lead from the root to a place. -/
abbrev Place := List String

inductive FileEntry where
  | file (contents : Bytes)
  | directory
  deriving DecidableEq, Repr

/-- All files and directories, by their places, and the place from which relative paths start. -/
structure FileTree where
  entries : List (Place × FileEntry)
  workDir : Place
  deriving DecidableEq, Repr

namespace FileTree

/-- A tree that holds nothing but the root, which is also the working directory. -/
def empty : FileTree := ⟨[], []⟩

def entry? (tree : FileTree) (place : Place) : Option FileEntry :=
  if place = [] then some .directory else tree.entries.lookup place

/-- Follows one name from a place, which must be a directory. -/
def follow (tree : FileTree) (place : Place) (name : String) : Except FileFault Place :=
  match tree.entry? place with
  | none => .error .notFound
  | some (.file _) => .error .notADirectory
  | some .directory =>
    if name = "" ∨ name = "." then .ok place
    else if name = ".." then .ok place.dropLast
    else .ok (place ++ [name])

/-- The place to which a path leads. All but the last name must be there. -/
def resolve (tree : FileTree) (path : String) : Except FileFault Place :=
  if path = "" then .error .notFound
  else
    let start := if path.toList.head? = some '/' then [] else tree.workDir
    ((Path.segments path.toList).map String.ofList).foldlM tree.follow start

def read (tree : FileTree) (path : String) : Except FileFault Bytes := do
  match tree.entry? (← tree.resolve path) with
  | some (.file contents) => pure contents
  | some .directory => throw .isADirectory
  | none => throw .notFound

def readText (tree : FileTree) (path : String) : Except FileFault String := do
  match String.fromUTF8? ⟨(← tree.read path).toArray⟩ with
  | some text => pure text
  | none => throw .invalidData

def put (tree : FileTree) (place : Place) (entry : FileEntry) : FileTree :=
  { tree with entries := (place, entry) :: tree.entries.filter (·.1 ≠ place) }

def write (tree : FileTree) (path : String) (contents : Bytes) : Except FileFault FileTree := do
  let place ← tree.resolve path
  if tree.entry? place = some .directory then throw .isADirectory
  pure (tree.put place (.file contents))

/-- Makes the directories that names lead through, from a place on. -/
def makeBelow (tree : FileTree) (place : Place) : List String → FileTree
  | [] => tree
  | name :: rest =>
    if name = ".." then makeBelow tree place.dropLast rest
    else
      let next := place ++ [name]
      let made := if (tree.entry? next).isSome then tree else tree.put next .directory
      makeBelow made next rest

/-- Makes a directory at a path, and the directories that lead to it. -/
def makeDirectory (tree : FileTree) (path : String) : FileTree :=
  let names := (Path.segments path.toList).map String.ofList
  let start := if path.toList.head? = some '/' then [] else tree.workDir
  tree.makeBelow start (names.filter fun name => name ≠ "" ∧ name ≠ ".")

/-- The tree with the working directory at another place, which is made if it is missing. -/
def enter (tree : FileTree) (path : String) : FileTree :=
  let made := tree.makeDirectory path
  match made.resolve path with
  | .ok place => { made with workDir := place }
  | .error _ => made

end FileTree

end FirstCall
