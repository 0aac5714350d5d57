/-
This file shows that emissions merge whatever their order is and however often they come.
-/

import HostTree.Proofs.Store.Grouping

namespace HostTree

namespace Store

/-- A name leads to the only block that has it. -/
theorem get?_eq_some_iff {store : Store} {name : String} {block : Block} :
    store.get? name = some block ↔ block ∈ store.blocks.toList ∧ block.name = name := by
  rw [get?, Option.bind_eq_some_iff]
  constructor
  · rintro ⟨position, found, here⟩
    have named := (store.indexed name position).mp found
    rw [here] at named
    exact ⟨Array.mem_toList_iff.mpr (Array.mem_of_getElem? here), Option.some.inj named⟩
  · rintro ⟨among, rfl⟩
    obtain ⟨position, here⟩ := Array.getElem?_of_mem (Array.mem_toList_iff.mp among)
    have found := (store.indexed block.name position).mpr (congrArg (Option.map Block.name) here)
    exact ⟨position, found, here⟩

end Store

namespace Emission

variable {first second emissions later : List Emission}

/-- The lines of a block depend on nothing but which emissions there are. -/
theorem block_lines_congr (same : ∀ emission, emission ∈ first ↔ emission ∈ second)
    (name : String) : (block first name).lines = (block second name).lines := by
  apply Std.ExtTreeSet.ext_mem
  intro line
  simp only [mem_block_lines, same]

theorem block_append_of_subset (known : ∀ emission ∈ later, emission ∈ emissions)
    (name : String) : block (emissions ++ later) name = block emissions name := by
  ext1
  case name => rfl
  case kind =>
    rw [block, block, List.find?_append]
    cases found : emissions.find? (·.name = name) with
    | some first => rfl
    | none =>
      -- The later emissions are no news here either.
      have others : later.find? (·.name = name) = none :=
        List.find?_eq_none.mpr fun emission among =>
          List.find?_eq_none.mp found emission (known emission among)
      rw [others]
      rfl
  case lines =>
    apply block_lines_congr
    intro emission
    rw [List.mem_append]
    exact ⟨fun among => among.elim id (known emission), .inl⟩

/-- Emissions that come again change no block, neither its place nor its kind nor its lines. -/
theorem grouped_append_of_subset (known : ∀ emission ∈ later, emission ∈ emissions) :
    grouped (emissions ++ later) = grouped emissions := by
  have old : (later.map name).removeAll (emissions.map name) = [] := by
    rw [List.removeAll, List.filter_eq_nil_iff]
    intro other among
    obtain ⟨emission, member, rfl⟩ := List.mem_map.mp among
    simpa using ⟨emission, known emission member, rfl⟩
  rw [grouped, grouped, List.map_append, List.eraseDups_append, old, List.eraseDups_nil,
    List.append_nil]
  exact List.map_congr_left fun other _ => block_append_of_subset known other

end Emission

namespace Store

variable {emissions : List Emission}

theorem mem_names_foldl_addTo {name : String} :
    name ∈ (emissions.foldl Emission.addTo empty).names ↔ name ∈ emissions.map Emission.name := by
  rw [names, Emission.toList_foldl_addTo, Emission.names_grouped, List.mem_eraseDups]

/-- Each name leads to the block of all emissions under this name. -/
theorem get?_foldl_addTo (emissions : List Emission) (name : String) :
    (emissions.foldl Emission.addTo empty).get? name =
      if name ∈ emissions.map Emission.name then some (Emission.block emissions name)
      else none := by
  have blocks := Emission.toList_foldl_addTo emissions
  split
  · next present =>
    refine get?_eq_some_iff.mpr ⟨?_, rfl⟩
    rw [blocks, Emission.grouped]
    exact List.mem_map_of_mem (List.mem_eraseDups.mpr present)
  · next absent =>
    rw [Option.eq_none_iff_forall_ne_some]
    intro block found
    obtain ⟨among, rfl⟩ := get?_eq_some_iff.mp found
    exact absent (mem_names_foldl_addTo.mp (List.mem_map_of_mem among))

/-- As a map from names to lines, the store depends on nothing but which emissions it takes. -/
theorem lines_foldl_addTo_congr {first second : List Emission}
    (same : ∀ emission, emission ∈ first ↔ emission ∈ second) (name : String) :
    ((first.foldl Emission.addTo empty).get? name).map Block.lines =
      ((second.foldl Emission.addTo empty).get? name).map Block.lines := by
  have names : name ∈ first.map Emission.name ↔ name ∈ second.map Emission.name := by
    simp only [List.mem_map, same]
  rw [get?_foldl_addTo, get?_foldl_addTo, apply_ite (Option.map Block.lines),
    apply_ite (Option.map Block.lines)]
  exact if_congr names (congrArg some (Emission.block_lines_congr same name)) rfl

theorem foldl_addTo_append_of_subset {later : List Emission}
    (known : ∀ emission ∈ later, emission ∈ emissions) :
    (emissions ++ later).foldl Emission.addTo empty = emissions.foldl Emission.addTo empty := by
  apply eq_of_blocks
  apply Array.toList_inj.mp
  rw [Emission.toList_foldl_addTo, Emission.toList_foldl_addTo,
    Emission.grouped_append_of_subset known]

end Store
end HostTree
