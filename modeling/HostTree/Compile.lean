/-
This file compiles a document into the blocks of a configuration.
-/

import HostTree.Outline
import HostTree.Store

namespace HostTree

/-- What was emitted and reported before a failure stays. -/
structure Session where
  store : Store := Store.empty
  warnings : Array Warning := #[]

abbrev Compilation := ExceptT Failure (StateM Session)

namespace Compilation

def report (warning : Warning) : Compilation Unit :=
  modify fun session => { session with warnings := session.warnings.push warning }

def emit (name : String) (kind : BlockKind) (lines : List String) : Compilation Unit :=
  modify fun session => { session with store := session.store.push name kind lines }

def setting (setting : Setting) (item : Option Value) : Compilation (List String) := do
  match ← (setting.compile item : Except Failure Setting.Outcome) with
  | .line text => return [text]
  | .dropped warning =>
    report warning
    return []

def settings (item : Option Value) : List Setting → Compilation (List String)
  | [] => return []
  | first :: rest => do
    let lines ← setting first item
    return lines ++ (← settings item rest)

end Compilation

/-- Options outside any other block land in this one. -/
def wildcard : String :=
  "*"

namespace Declaration

/-- A node without a loop is visited once and without an item. -/
def items (declaration : Declaration) : List (Option Value) :=
  match declaration.loop with
  | none => [none]
  | some loop => loop.elements.map some

/-- The name begins with the name of the parent, and the item fills both. The wildcard of a host
stays as it is. -/
def blockName (declaration : Declaration) (parentName : String) (item : Option Value) :
    Except Failure String :=
  match declaration.pattern with
  | none => .ok wildcard
  | some pattern =>
    if pattern = wildcard ∧ declaration.kind = .host then .ok wildcard
    else Template.resolve (parentName ++ pattern) item

/-- The children of the wildcard are on their own. -/
def nameForChildren (declaration : Declaration) (name : String) : String :=
  if name ≠ wildcard ∧ declaration.namesChildren then name else ""

def settingsForChildren (declaration : Declaration) (name : String)
    (settings : List Setting) : List Setting :=
  if name ≠ wildcard ∧ declaration.sharesSettings then settings else []

end Declaration

namespace Outline

mutual

/-- A node comes before its children, and the children are visited once for each item. -/
def compile (parentName : String) (inherited : List Setting) : Outline → Compilation Unit
  | invalid failure => throw failure
  | node declaration children =>
    let settings := Setting.overlay inherited declaration.settings
    declaration.items.forM fun item => do
      let name ← (declaration.blockName parentName item : Except Failure String)
      let lines ← Compilation.settings item settings
      unless declaration.hidden do
        Compilation.emit name declaration.kind lines
      compileAll (declaration.nameForChildren name)
        (declaration.settingsForChildren name settings) children
termination_by structural outline => outline

def compileAll (parentName : String) (inherited : List Setting) :
    List Outline → Compilation Unit
  | [] => return
  | first :: rest => do
    compile parentName inherited first
    compileAll parentName inherited rest
termination_by structural outlines => outlines

end

end Outline

/-- Each document goes on with what the ones before it left. -/
def Session.feed (session : Session) (document : Value) : Except Failure Unit × Session :=
  (Outline.compileAll "" [] (Outline.ofDocument document)).run session

def compile (document : Value) : Except Failure Store × Array Warning :=
  let (result, session) := ({} : Session).feed document
  (result.map fun _ => session.store, session.warnings)

end HostTree
