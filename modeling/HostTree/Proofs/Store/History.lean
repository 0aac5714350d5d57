/-
This file describes a store by everything that was pushed to it.
-/

import HostTree.Proofs.Store.Merging
import HostTree.Proofs.Text.Octet

namespace HostTree

/-- These are the arguments of one push. -/
structure Addition where
  name : String
  kind : BlockKind
  lines : List String

namespace Addition

/-- An addition is a push. -/
def addTo (store : Store) (addition : Addition) : Store :=
  store.push addition.name addition.kind addition.lines

/-- The order of the lines and their repetitions are lost. -/
def emission (addition : Addition) : Emission :=
  ⟨addition.name, addition.kind, Std.ExtTreeSet.ofList addition.lines⟩

/-- The emission of an addition does to a store what the addition does. -/
theorem addTo_emission (store : Store) (addition : Addition) :
    addition.emission.addTo store = addition.addTo store := by
  apply Store.push_congr
  intro line
  simp [emission]

end Addition

/-- The lines of a block stand in the order of their octets. -/
theorem Block.sorted_lines (block : Block) :
    block.lines.toList.Pairwise fun first second => Text.octets first < Text.octets second := by
  refine block.lines.ordered_toList.imp ?_
  intro first second less
  exact Text.octets_lt_octets (compareOfLessAndEq_eq_lt.mp less)

namespace Store

/-- The additions are made one after the other, beginning with the empty store. -/
def ofAdditions (additions : List Addition) : Store :=
  additions.foldl Addition.addTo empty

theorem ofAdditions_eq (additions : List Addition) :
    ofAdditions additions = (additions.map Addition.emission).foldl Emission.addTo empty := by
  rw [ofAdditions, List.foldl_map]
  simp only [Addition.addTo_emission]

/-- The store has a block for each name that was added, in the order in which the names first came.
The index leads to all blocks and to nothing else. The lines of a block are strictly increasing, so
that none of them stands there twice. -/
structure Collects (store : Store) (additions : List Addition) : Prop where
  names : store.names = (additions.map Addition.name).eraseDups
  distinct : store.names.Nodup
  kinds : ∀ block ∈ store.blocks.toList, ∃ first,
    additions.find? (·.name = block.name) = some first ∧ block.kind = first.kind
  lines : ∀ block ∈ store.blocks.toList, ∀ line, line ∈ block.lines.toList ↔
    ∃ addition ∈ additions, addition.name = block.name ∧ line ∈ addition.lines
  sorted : ∀ block ∈ store.blocks.toList, block.lines.toList.Pairwise fun first second =>
    Text.octets first < Text.octets second
  indexed : ∀ (name : String) (position : Nat),
    store.index[name]? = some position ↔ store.names[position]? = some name
  found : ∀ (name : String) (position : Nat), store.index[name]? = some position →
    ∃ inside : position < store.blocks.size,
      store.blocks[position].name = name ∧ store.get? name = some store.blocks[position]
  missing : ∀ name, store.get? name = none ↔ name ∉ additions.map Addition.name

/-- The place that the index gives for a name is inside the blocks, and its block has the name. -/
theorem get?_eq_getElem {store : Store} {name : String} {position : Nat}
    (found : store.index[name]? = some position) :
    ∃ inside : position < store.blocks.size,
      store.blocks[position].name = name ∧ store.get? name = some store.blocks[position] := by
  obtain ⟨block, here, named⟩ := Option.map_eq_some_iff.mp ((store.indexed name position).mp found)
  obtain ⟨inside, same⟩ := Array.getElem?_eq_some_iff.mp here
  refine ⟨inside, ?_, ?_⟩
  · rwa [same]
  · rw [get?, found, Option.bind_some, here, same]

variable {additions : List Addition}

/-- The blocks have the names of the additions, in the order of their first occurrence. -/
theorem names_ofAdditions : (ofAdditions additions).names =
    (additions.map Addition.name).eraseDups := by
  rw [names, ofAdditions_eq, Emission.toList_foldl_addTo, Emission.names_grouped, List.map_map]
  rfl

/-- A block is what the additions with its name make together. -/
theorem eq_block_of_mem {block : Block} (among : block ∈ (ofAdditions additions).blocks.toList) :
    block = Emission.block (additions.map Addition.emission) block.name := by
  rw [ofAdditions_eq, Emission.toList_foldl_addTo, Emission.grouped] at among
  obtain ⟨name, _, rfl⟩ := List.mem_map.mp among
  rfl

/-- The first addition with its name decides about the kind of a block. -/
theorem kind_of_mem {block : Block} (among : block ∈ (ofAdditions additions).blocks.toList) :
    ∃ first, additions.find? (·.name = block.name) = some first ∧ block.kind = first.kind := by
  have named : block.name ∈ (additions.map Addition.name).eraseDups := by
    rw [← names_ofAdditions]
    exact List.mem_map_of_mem among
  have known : (additions.find? (·.name = block.name)).isSome := by
    simpa [List.find?_isSome] using named
  obtain ⟨first, found⟩ := Option.isSome_iff_exists.mp known
  have foundEmission : (additions.map Addition.emission).find? (·.name = block.name) =
      some first.emission := by
    rw [List.find?_map]
    exact congrArg (Option.map Addition.emission) found
  have kind := congrArg Block.kind (eq_block_of_mem among)
  rw [Emission.block, foundEmission] at kind
  exact ⟨first, found, kind⟩

/-- A block has the lines of all additions with its name, and no others. -/
theorem mem_lines_of_mem {block : Block} (among : block ∈ (ofAdditions additions).blocks.toList)
    (line : String) : line ∈ block.lines.toList ↔
      ∃ addition ∈ additions, addition.name = block.name ∧ line ∈ addition.lines := by
  have lines := congrArg Block.lines (eq_block_of_mem among)
  rw [Std.ExtTreeSet.mem_toList, lines, Emission.mem_block_lines]
  simp [Addition.emission]

/-- No block is found under a name that no addition has. -/
theorem get?_ofAdditions_eq_none (name : String) :
    (ofAdditions additions).get? name = none ↔ name ∉ additions.map Addition.name := by
  have names : (additions.map Addition.emission).map Emission.name =
      additions.map Addition.name := by
    rw [List.map_map]
    rfl
  rw [ofAdditions_eq, get?_foldl_addTo, names]
  simp

/-- However many additions come in whatever order, the blocks and the index stay in step. -/
theorem collects_ofAdditions (additions : List Addition) :
    (ofAdditions additions).Collects additions where
  names := names_ofAdditions
  distinct := nodup_names _
  kinds := fun _ => kind_of_mem
  lines := fun _ => mem_lines_of_mem
  sorted := fun block _ => block.sorted_lines
  indexed := index_eq_some_iff _
  found := fun _ _ => get?_eq_getElem
  missing := get?_ofAdditions_eq_none

end Store
end HostTree
