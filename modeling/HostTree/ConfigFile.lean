/-
This file writes the configuration to its file.
-/

import HostTree.Calendar
import HostTree.Failure
import HostTree.FileAccess
import HostTree.Path
import HostTree.Text.Blank

namespace HostTree.ConfigFile

def usualPath (home : String) : String :=
  Path.joinText (Path.joinText home ".ssh") "config"

def header (sourcePath : String) (instant : Instant) : String :=
  "# Generated by edgar on " ++ Calendar.instantText instant ++ "\n#\n"
    ++ "# Be aware that any manual change to it may be overwritten.\n"
    ++ "# Source: " ++ sourcePath ++ "\n\n"

/-- Blanks around the body are dropped, and one line end comes last. -/
def text (body sourcePath : String) (instant : Instant) : String :=
  header sourcePath instant ++ Text.trim body ++ "\n"

variable {m : Type → Type} [Monad m] [FileAccess m]

/-- A path without a directory needs none to be made. -/
def prepareParent (path : String) : m Bool := do
  match Path.parent? path.toList with
  | some (first :: rest) => FileAccess.makeDirectories (String.ofList (first :: rest))
  | _ => return true

def write (path content : String) : ExceptT Failure m Unit := do
  let prepared ← (prepareParent path : m Bool)
  let written ← if prepared then (FileAccess.writeText path content : m Bool) else pure false
  unless written do
    throw (.unwritableOutput path)

end HostTree.ConfigFile
