/-
This file holds a file system as a value.
-/

import HostTree.FileAccess
import HostTree.Path

namespace HostTree

/-- A location lists the names from the root to an entry. -/
abbrev Location := List (List Char)

inductive FileEntry where
  | directory
  | file (content : ByteArray)

def FileEntry.isDirectory : FileEntry → Bool
  | .directory => true
  | .file _ => false

/-- The root is always there. Relative paths are seen from the working directory. -/
structure FileTree where
  entries : List (Location × FileEntry) := []
  workingDirectory : Location := []

namespace FileTree

def entry? (tree : FileTree) (location : Location) : Option FileEntry :=
  if location = [] then some .directory else tree.entries.lookup location

def put (tree : FileTree) (location : Location) (entry : FileEntry) : FileTree :=
  { tree with
    entries := tree.entries.filter (fun other => other.1 ≠ location) ++ [(location, entry)] }

/-- Only a directory leads on. -/
def enter (tree : FileTree) (location : Location) (segment : List Char) : Option Location :=
  if !(tree.entry? location).any FileEntry.isDirectory then none
  else if Path.isIdle segment then some location
  else if segment = ['.', '.'] then some location.dropLast
  else some (location ++ [segment])

def follow (tree : FileTree) (start : Location) (parts : List (List Char)) : Option Location :=
  parts.foldlM tree.enter start

/-- The entry at the location need not exist, but the directories before it do. -/
def locate (tree : FileTree) (path : List Char) : Option Location :=
  if path.isEmpty then none
  else
    tree.follow (if Path.isAbsolute path then [] else tree.workingDirectory) (Path.segments path)

def find? (tree : FileTree) (path : List Char) : Option FileEntry :=
  (tree.locate path).bind tree.entry?

def isFile (tree : FileTree) (path : List Char) : Bool :=
  match tree.find? path with
  | some (.file _) => true
  | _ => false

def isDirectory (tree : FileTree) (path : List Char) : Bool :=
  (tree.find? path).any FileEntry.isDirectory

/-- Only a file with well-formed text can be read. -/
def readText (tree : FileTree) (path : List Char) : Option String :=
  match tree.find? path with
  | some (.file content) => String.fromUTF8? content
  | _ => none

/-- A separator at the end of the path of a new directory does not count. -/
def makeDirectory (tree : FileTree) (path : List Char) : Option FileTree :=
  let trimmed := (path.reverse.dropWhile (· == '/')).reverse
  match tree.locate trimmed with
  | none => none
  | some location =>
    if (tree.entry? location).isSome then none else some (tree.put location .directory)

/-- A missing parent is made first, and what was made stays when a later step fails. -/
def makeParents : Nat → List Char → FileTree → Bool × FileTree
  | 0, _, tree => (false, tree)
  | fuel + 1, path, tree =>
    if path.isEmpty then (true, tree)
    else
      match tree.makeDirectory path with
      | some made => (true, made)
      | none =>
        if tree.isDirectory path then (true, tree)
        else if (tree.find? path).isSome then (false, tree)
        else
          match Path.parent? path with
          | none => (false, tree)
          | some parent =>
            match makeParents fuel parent tree with
            | (false, changed) => (false, changed)
            | (true, changed) =>
              match changed.makeDirectory path with
              | some made => (true, made)
              | none => (changed.isDirectory path, changed)

def makeDirectories (path : List Char) (tree : FileTree) : Bool × FileTree :=
  if (tree.find? path).isSome then (true, tree) else makeParents (path.length + 1) path tree

def writeText (path : List Char) (text : String) (tree : FileTree) : Bool × FileTree :=
  match tree.locate path with
  | none => (false, tree)
  | some location =>
    if (tree.entry? location).any FileEntry.isDirectory then (false, tree)
    else (true, tree.put location (.file text.toUTF8))

instance : FileAccess (StateM FileTree) where
  isFile path := do return (← get).isFile path.toList
  readText path := do return (← get).readText path.toList
  makeDirectories path := fun tree => makeDirectories path.toList tree
  writeText path text := fun tree => writeText path.toList text tree

end FileTree
end HostTree
