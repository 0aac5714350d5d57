/-
This file shows that a store keeps its blocks in place when lines are pushed to it.
-/

import HostTree.Proofs.Store.Grouping

namespace HostTree

/-- A block keeps its name, its kind and its lines, and more lines may join them. -/
structure Block.GrowsTo (before after : Block) : Prop where
  name : after.name = before.name
  kind : after.kind = before.kind
  lines : ∀ line ∈ before.lines, line ∈ after.lines

namespace Block.GrowsTo

theorem refl (block : Block) : block.GrowsTo block :=
  ⟨rfl, rfl, fun _ => id⟩

/-- Blocks grow step by step. -/
theorem trans {first second third : Block} (now : first.GrowsTo second)
    (later : second.GrowsTo third) : first.GrowsTo third where
  name := later.name.trans now.name
  kind := later.kind.trans now.kind
  lines := fun line present => later.lines line (now.lines line present)

end Block.GrowsTo

/-- Lines that are added let a block grow. -/
theorem Block.growsTo_extend (block : Block) (lines : List String) :
    block.GrowsTo (block.extend lines) := by
  refine ⟨rfl, rfl, ?_⟩
  intro line present
  rw [extend, Std.ExtTreeSet.mem_insertMany_list]
  exact .inl present

namespace Store

/-- All blocks keep their places, so that new blocks only come behind them. -/
def GrowsTo (before after : Store) : Prop :=
  ∀ (position : Nat) (block : Block), before.blocks[position]? = some block →
    ∃ grown, after.blocks[position]? = some grown ∧ block.GrowsTo grown

theorem GrowsTo.refl (store : Store) : store.GrowsTo store :=
  fun _ block here => ⟨block, here, .refl block⟩

/-- Stores grow step by step. -/
theorem GrowsTo.trans {first second third : Store} (now : first.GrowsTo second)
    (later : second.GrowsTo third) : first.GrowsTo third := by
  intro position block here
  obtain ⟨grown, there, growth⟩ := now position block here
  obtain ⟨last, atLast, more⟩ := later position grown there
  exact ⟨last, atLast, growth.trans more⟩

/-- Each push lets the store grow. -/
theorem growsTo_push (store : Store) (name : String) (kind : BlockKind) (lines : List String) :
    store.GrowsTo (store.push name kind lines) := by
  intro position block here
  rw [← Array.getElem?_toList] at here
  rw [← Array.getElem?_toList]
  by_cases present : name ∈ store.names
  · rw [toList_push_of_mem _ _ _ _ present, List.getElem?_map, here]
    refine ⟨_, rfl, ?_⟩
    dsimp only
    split
    · exact block.growsTo_extend lines
    · exact .refl block
  · have inside : position < store.blocks.toList.length :=
      (List.getElem?_eq_some_iff.mp here).1
    rw [toList_push_of_not_mem _ _ _ _ present, List.getElem?_append_left inside]
    exact ⟨block, here, .refl block⟩

/-- What holds of one push holds of any number of them. -/
theorem growsTo_foldl_addTo (emissions : List Emission) (store : Store) :
    store.GrowsTo (emissions.foldl Emission.addTo store) := by
  induction emissions generalizing store with
  | nil => exact .refl store
  | cons emission rest ih =>
    have now : store.GrowsTo (Emission.addTo store emission) := growsTo_push store _ _ _
    exact now.trans (ih _)

end Store
end HostTree
