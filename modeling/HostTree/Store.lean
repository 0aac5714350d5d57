/-
This file collects the blocks of a configuration and writes them as text.
-/

import HostTree.Declaration
import Std.Data.ExtTreeMap
import Std.Data.ExtTreeSet

namespace HostTree

/-- Each line stands there once, and the list of them is in the order of code points. -/
abbrev LineSet := Std.ExtTreeSet String

structure Block where
  name : String
  kind : BlockKind
  lines : LineSet
  deriving DecidableEq

namespace Block

def header (block : Block) : String :=
  block.kind.word ++ " " ++ block.name

def extend (block : Block) (lines : List String) : Block :=
  { block with lines := block.lines.insertMany lines }

def ofLines (name : String) (kind : BlockKind) (lines : List String) : Block :=
  ⟨name, kind, Std.ExtTreeSet.ofList lines⟩

def text (block : Block) : String :=
  "\n".intercalate (block.header :: block.lines.toList.map ("  " ++ ·))

end Block

/-- The blocks stand in the order in which their names first came. The index leads from each name to
the place of its block, and to nothing else. -/
structure Store where
  index : Std.ExtTreeMap String Nat
  blocks : Array Block
  indexed : ∀ name position,
    index[name]? = some position ↔ (blocks[position]?).map Block.name = some name

namespace Store

def empty : Store where
  index := ∅
  blocks := #[]
  indexed := by simp

/-- The lines join the block of the name at its place, or begin a new block at the end. A block
keeps the kind that it began with. -/
def push (store : Store) (name : String) (kind : BlockKind) (lines : List String) : Store :=
  match found : store.index[name]? with
  | some position =>
    { index := store.index
      blocks := store.blocks.modify position (·.extend lines)
      indexed := by
        intro other place
        rw [store.indexed, Array.getElem?_modify]
        split
        · cases store.blocks[place]? <;> rfl
        · rfl }
  | none =>
    { index := store.index.insert name store.blocks.size
      blocks := store.blocks.push (Block.ofLines name kind lines)
      indexed := by
        intro other place
        rw [Std.ExtTreeMap.getElem?_insert, Array.getElem?_push]
        by_cases same : name = other
        · subst same
          have missing : ∀ position : Nat, (store.blocks[position]?).map Block.name ≠ some name :=
            fun position present => by simp [(store.indexed name position).mpr present] at found
          by_cases last : place = store.blocks.size
          · simp [last, Block.ofLines]
          · simpa [last, missing place] using fun equal => last equal.symm
        · by_cases last : place = store.blocks.size
          · subst last
            have outside : store.index[other]? ≠ some store.blocks.size := fun present => by
              simpa using (store.indexed other _).mp present
            simp [same, outside, Block.ofLines]
          · simp [same, last, store.indexed] }

def get? (store : Store) (name : String) : Option Block :=
  store.index[name]?.bind fun position => store.blocks[position]?

def names (store : Store) : List String :=
  store.blocks.toList.map Block.name

/-- An empty line stands between two blocks. -/
def text (store : Store) : String :=
  Text.trim ("\n\n".intercalate (store.blocks.toList.map Block.text))

end Store
end HostTree
