/-
This file runs the commands of the program.
-/

import HostTree.Compile
import HostTree.ConfigFile
import HostTree.Source

namespace HostTree

inductive Command where
  | store
  | display
  | check
  deriving DecidableEq, Repr

structure Request where
  command : Command := .store
  source : Option String := none
  output : Option String := none
  deriving DecidableEq, Repr

/-- The context says what was being done when the cause came up. -/
structure Trouble where
  context : String
  cause : Obstacle

structure Report where
  printed : String := ""
  warnings : Array Warning := #[]
  trouble : Option Trouble := none

/-- Warnings do not change the exit code. -/
def Report.exitCode (report : Report) : Nat :=
  if report.trouble.isSome then 1 else 0

namespace Request

/-- This path is the standard output. -/
def standardOutput : List Char :=
  ['-']

def checkText (path : String) (blocks warnings : Nat) : String :=
  path ++ " is valid (" ++ toString blocks ++ " blocks, " ++ toString warnings ++ " warnings)\n"

variable {m : Type → Type} [Monad m] [FileAccess m]

def storeText (home : String) (instant : Instant) (source : Source) (text : String)
    (output : Option String) : m Report := do
  if output.any fun path =>
      Path.components path.toList == Path.components standardOutput then
    return { printed := text ++ "\n" }
  else
    let path := (output.map (Path.expandHome · home)).getD (ConfigFile.usualPath home)
    match ← (ConfigFile.write path (ConfigFile.text text source.path instant)).run with
    | .ok _ => return {}
    | .error cause => return { trouble := some ⟨"Failed to write " ++ path, .failure cause⟩ }

/-- Nothing is printed or written before the source is compiled. -/
def carryOut (home : String) (instant : Instant) (request : Request) (source : Source) :
    m Report := do
  let (result, warnings) := compile source.document
  match result with
  | .error cause =>
    return {
      warnings := warnings
      trouble := some ⟨"Failed to compile " ++ source.path, .failure cause⟩ }
  | .ok store =>
    match request.command with
    | .display => return { printed := store.text ++ "\n", warnings := warnings }
    | .check =>
      return {
        printed := checkText source.path store.blocks.size warnings.size
        warnings := warnings }
    | .store =>
      let report ← storeText home instant source store.text request.output
      return { report with warnings := warnings }

def loadingContext : String :=
  "Failed to load source document"

/-- The request waits until its source is loaded. No source is looked for without a home directory,
not even at a path that is given. The source and the output have the same home directory, so it is
asked for once. -/
def run (home : Option String) (instant : Instant) (request : Request) : m Report := do
  match home with
  | none => return { trouble := some ⟨loadingContext, .homeNotFound⟩ }
  | some directory =>
    match ← (Source.load directory request.source).run with
    | .error cause => return { trouble := some ⟨loadingContext, .failure cause⟩ }
    | .ok source => request.carryOut directory instant source

end Request
end HostTree
