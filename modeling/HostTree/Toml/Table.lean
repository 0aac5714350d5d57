/-
This file collects the tables of a TOML document.
-/

import HostTree.Value

namespace HostTree.Toml

/-- A header defines its table. A table on the way to another one is passed when a header leads
through it, and dotted when a dotted key does. -/
inductive Status where
  | defined
  | passed
  | dotted
  deriving DecidableEq, Repr

/-- A value is closed, and the others can still grow. -/
inductive Item where
  | value (content : Value)
  | table (status : Status) (entries : List (String × Item))
  | tables (elements : List (List (String × Item)))

structure Table where
  status : Status
  entries : List (String × Item)

namespace Table

def empty (status : Status) : Table :=
  ⟨status, []⟩

/-- Missing tables on the way are made. An array of tables leads to its last element, and a dotted
key leads through no defined table. -/
def changeAt (way : Status) (change : Table → Option Table) : List String → Table → Option Table
  | [], table => change table
  | key :: rest, table =>
    match Entries.get? key table.entries with
    | none => do
      let child ← changeAt way change rest (empty way)
      return { table with entries := table.entries ++ [(key, .table child.status child.entries)] }
    | some (.value _) => none
    | some (.table status entries) =>
      if way = .dotted ∧ status = .defined then none
      else do
        let child ← changeAt way change rest ⟨status, entries⟩
        let changed := Item.table child.status child.entries
        return { table with entries := Entries.insert key changed table.entries }
    | some (.tables elements) => do
      let child ← changeAt way change rest ⟨.defined, ← elements.getLast?⟩
      let changed := Item.tables (elements.dropLast ++ [child.entries])
      return { table with entries := Entries.insert key changed table.entries }

def add (key : String) (item : Item) (table : Table) : Option Table :=
  match Entries.get? key table.entries with
  | some _ => none
  | none => some { table with entries := table.entries ++ [(key, item)] }

/-- Only the tables that dotted keys made take further dotted keys. -/
def assign (path : List String) (key : String) (content : Value) : Table → Option Table :=
  changeAt .dotted (fun table =>
    if (table.status == .dotted) == path.isEmpty then none else table.add key (.value content)) path

/-- A table is defined once, but it may have been passed before. -/
def define (path : List String) (key : String) : Table → Option Table :=
  changeAt .passed (fun table =>
    match Entries.get? key table.entries with
    | none => table.add key (.table .defined [])
    | some (.table .passed entries) =>
      some { table with entries := Entries.insert key (.table .defined entries) table.entries }
    | some _ => none) path

def defineElement (path : List String) (key : String) : Table → Option Table :=
  changeAt .passed (fun table =>
    match Entries.get? key table.entries with
    | none => table.add key (.tables [[]])
    | some (.tables elements) =>
      some { table with entries := Entries.insert key (.tables (elements ++ [[]])) table.entries }
    | some _ => none) path

end Table

def inKeyOrder (entries : List (String × Value)) : List (String × Value) :=
  entries.mergeSort fun left right => left.1 ≤ right.1

namespace Item

mutual

/-- The entries of a table stand in the order of their keys. -/
def toValue : Item → Value
  | value content => content
  | table _ entries => .mapping (inKeyOrder (toValues entries))
  | tables elements => .sequence (toMappings elements)
termination_by structural item => item

def toValues : List (String × Item) → List (String × Value)
  | [] => []
  | (key, item) :: rest => (key, toValue item) :: toValues rest
termination_by structural entries => entries

def toMappings : List (List (String × Item)) → List Value
  | [] => []
  | entries :: rest => .mapping (inKeyOrder (toValues entries)) :: toMappings rest
termination_by structural elements => elements

end

end Item

def Table.toValue (table : Table) : Value :=
  (Item.table table.status table.entries).toValue

end HostTree.Toml
