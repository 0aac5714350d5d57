/-
This file finds and reads the source document.
-/

import HostTree.Failure
import HostTree.FileAccess
import HostTree.Path
import HostTree.Text.Blank
import HostTree.Toml.Document
import HostTree.Yaml.Document

namespace HostTree

inductive SourceFormat where
  | yaml
  | toml
  deriving DecidableEq, Repr

/-- Any other extension is that of a YAML document, and so is none. -/
def SourceFormat.ofPath (path : String) : SourceFormat :=
  if (Path.extension? path).any (Text.sameFolded "toml") then .toml else .yaml

structure Source where
  path : String
  document : Value

namespace Source

/-- These are seen from the home directory, and the first one that exists counts. -/
def usualPaths : List String :=
  [".config/edgar.yml", ".config/edgar.toml", ".edgarrc"]

/-- A path that is given comes before the usual ones. -/
def candidates (home : String) (given : Option String) : List String :=
  (given.map (Path.expandHome · home)).toList ++ usualPaths.map (Path.joinText home)

/-- A document without content is an empty node. -/
def parse (format : SourceFormat) (path content : String) : Except Failure Value :=
  if (Text.trim content).isEmpty then .ok (.mapping [])
  else
    let parsed : Except Failure Value := match format with
      | .yaml => (Yaml.parse? content).elim (.error (.invalidYaml path)) .ok
      | .toml => (Toml.parse? content).elim (.error (.invalidToml path)) .ok
    parsed.map fun
      | .null => .mapping []
      | document => document

variable {m : Type → Type} [Monad m] [FileAccess m]

def firstFile : List String → m (Option String)
  | [] => return none
  | path :: rest => do
    if ← FileAccess.isFile path then return some path else firstFile rest

/-- All places are named if none of them has a file. -/
def discover (home : String) (given : Option String) : ExceptT Failure m String := do
  let paths := candidates home given
  match ← (firstFile paths : m (Option String)) with
  | some path => return path
  | none => throw (.sourceNotFound paths)

def readFrom (path : String) : ExceptT Failure m Source := do
  match ← (FileAccess.readText path : m (Option String)) with
  | none => throw (.unreadableSource path)
  | some content =>
    match parse (SourceFormat.ofPath path) path content with
    | .ok document => return ⟨path, document⟩
    | .error failure => throw failure

def load (home : String) (given : Option String) : ExceptT Failure m Source := do
  readFrom (← discover home given)

end Source
end HostTree
