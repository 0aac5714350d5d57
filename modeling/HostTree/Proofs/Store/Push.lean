/-
This file describes the blocks of a store after lines are pushed to it.
-/

import HostTree.Store
import Mathlib.Data.List.Nodup

attribute [ext] HostTree.Block

namespace HostTree.Store

/-- The index follows from the blocks, so that two stores with the same blocks are the same. -/
theorem eq_of_blocks {left right : Store} (same : left.blocks = right.blocks) : left = right := by
  obtain ⟨leftIndex, blocks, leftIndexed⟩ := left
  obtain ⟨rightIndex, rightBlocks, rightIndexed⟩ := right
  cases same
  have sameIndex : leftIndex = rightIndex := by
    apply Std.ExtTreeMap.ext_getElem?
    intro name
    ext position
    rw [leftIndexed, rightIndexed]
  cases sameIndex
  rfl

theorem index_eq_some_iff (store : Store) (name : String) (position : Nat) :
    store.index[name]? = some position ↔ store.names[position]? = some name := by
  rw [store.indexed]
  simp [names]

theorem index_eq_none_iff (store : Store) (name : String) :
    store.index[name]? = none ↔ name ∉ store.names := by
  rw [Option.eq_none_iff_forall_ne_some, List.mem_iff_getElem?]
  simp [index_eq_some_iff]

/-- One name has one place in the index, so that no two blocks share a name. -/
theorem nodup_names (store : Store) : store.names.Nodup := by
  rw [List.nodup_iff_getElem?_ne_getElem?]
  intro first second before inside same
  have found := List.getElem?_eq_getElem inside
  have atFirst := (store.index_eq_some_iff _ first).mpr (same.trans found)
  have atSecond := (store.index_eq_some_iff _ second).mpr found
  have equal : first = second := Option.some.inj (atFirst.symm.trans atSecond)
  omega

/-- Lines under a known name join the block of that name and touch no other block. -/
theorem toList_push_of_mem (store : Store) (name : String) (kind : BlockKind)
    (lines : List String) (present : name ∈ store.names) :
    (store.push name kind lines).blocks.toList =
      store.blocks.toList.map fun block =>
        if block.name = name then block.extend lines else block := by
  unfold push
  split
  case h_1 position found =>
    apply List.ext_getElem?
    intro place
    simp only [Array.getElem?_toList, Array.getElem?_modify, List.getElem?_map]
    -- The index leads from the name to this place only, so the names tell the places apart.
    have owner := store.indexed name place
    rw [found] at owner
    cases here : store.blocks[place]? with
    | none => simp
    | some block => by_cases same : position = place <;> simp_all
  case h_2 found =>
    exact absurd present ((store.index_eq_none_iff name).mp found)

/-- Lines under a new name begin a block at the end. -/
theorem toList_push_of_not_mem (store : Store) (name : String) (kind : BlockKind)
    (lines : List String) (absent : name ∉ store.names) :
    (store.push name kind lines).blocks.toList =
      store.blocks.toList ++ [Block.ofLines name kind lines] := by
  unfold push
  split
  case h_1 position found =>
    rw [(store.index_eq_none_iff name).mpr absent] at found
    cases found
  case h_2 => simp

/-- Only the set of the lines counts. -/
theorem push_congr (store : Store) (name : String) (kind : BlockKind) {first second : List String}
    (same : ∀ line, line ∈ first ↔ line ∈ second) :
    store.push name kind first = store.push name kind second := by
  have sameExtension (block : Block) : block.extend first = block.extend second := by
    ext1
    case name => rfl
    case kind => rfl
    case lines =>
      apply Std.ExtTreeSet.ext_mem
      intro line
      simp [Block.extend, same]
  have sameBlock : Block.ofLines name kind first = Block.ofLines name kind second := by
    ext1
    case name => rfl
    case kind => rfl
    case lines =>
      apply Std.ExtTreeSet.ext_mem
      intro line
      simp [Block.ofLines, same]
  apply eq_of_blocks
  apply Array.toList_inj.mp
  by_cases present : name ∈ store.names
  · rw [toList_push_of_mem _ _ _ _ present, toList_push_of_mem _ _ _ _ present]
    simp only [sameExtension]
  · rw [toList_push_of_not_mem _ _ _ _ present, toList_push_of_not_mem _ _ _ _ present, sameBlock]

/-- A push adds its own name and no other. -/
theorem mem_names_push {store : Store} {name other : String} {kind : BlockKind}
    {lines : List String} :
    other ∈ (store.push name kind lines).names ↔ other = name ∨ other ∈ store.names := by
  by_cases present : name ∈ store.names
  · have kept (block : Block) :
        (if block.name = name then block.extend lines else block).name = block.name := by
      split <;> rfl
    rw [names, toList_push_of_mem _ _ _ _ present, List.map_map]
    simp only [Function.comp_def, kept]
    exact ⟨.inr, fun among => among.elim (fun same => same ▸ present) id⟩
  · rw [names, toList_push_of_not_mem _ _ _ _ present, List.map_append, List.mem_append, or_comm]
    simp [Block.ofLines, names]

/-- All lines of all blocks have the property. -/
def AllLines (holds : String → Prop) (store : Store) : Prop :=
  ∀ block ∈ store.blocks.toList, ∀ line ∈ block.lines, holds line

variable {holds : String → Prop} {store : Store}

theorem allLines_empty : empty.AllLines holds :=
  fun _ none => absurd none List.not_mem_nil

/-- A store gets no lines but those that are pushed to it. -/
theorem AllLines.push (before : store.AllLines holds) {lines : List String}
    (added : ∀ line ∈ lines, holds line) (name : String) (kind : BlockKind) :
    (store.push name kind lines).AllLines holds := by
  intro block among line present
  by_cases known : name ∈ store.names
  · rw [toList_push_of_mem _ _ _ _ known] at among
    obtain ⟨old, member, rfl⟩ := List.mem_map.mp among
    split at present
    · rw [Block.extend, Std.ExtTreeSet.mem_insertMany_list] at present
      rcases present with earlier | now
      · exact before old member line earlier
      · exact added line (List.contains_iff_mem.mp now)
    · exact before old member line present
  · rw [toList_push_of_not_mem _ _ _ _ known] at among
    rcases List.mem_append.mp among with old | new
    · exact before block old line present
    · cases List.mem_singleton.mp new
      exact added line (by simpa [Block.ofLines] using present)

end HostTree.Store
