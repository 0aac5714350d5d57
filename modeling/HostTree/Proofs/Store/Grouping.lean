/-
This file groups a list of emissions by name and shows that a store does the same step by step.
-/

import HostTree.Proofs.Store.Push
import Mathlib.Data.List.Induction

namespace HostTree

/-- This is what one iteration of a node adds to the configuration. -/
structure Emission where
  name : String
  kind : BlockKind
  lines : LineSet
  deriving DecidableEq

namespace Emission

/-- An emission is pushed with its lines. -/
def addTo (store : Store) (emission : Emission) : Store :=
  store.push emission.name emission.kind emission.lines.toList

/-- A block has the kind of the first emission under its name and the lines of all of them. -/
def block (emissions : List Emission) (name : String) : Block where
  name := name
  kind := ((emissions.find? (·.name = name)).map kind).getD .host
  lines := Std.ExtTreeSet.ofList ((emissions.filter (·.name = name)).flatMap (·.lines.toList))

/-- There is one block for each name, in the order in which the names first come. -/
def grouped (emissions : List Emission) : List Block :=
  (emissions.map name).eraseDups.map (block emissions)

@[simp] theorem block_name (emissions : List Emission) (name : String) :
    (block emissions name).name = name := rfl

/-- A block has the lines of all emissions with its name, and no others. -/
theorem mem_block_lines (emissions : List Emission) (name line : String) :
    line ∈ (block emissions name).lines ↔
      ∃ emission ∈ emissions, emission.name = name ∧ line ∈ emission.lines := by
  simp [block, and_assoc]

/-- The blocks have the names of the emissions, in the order of their first occurrence. -/
theorem names_grouped (emissions : List Emission) :
    (grouped emissions).map Block.name = (emissions.map name).eraseDups := by
  rw [grouped, List.map_map]
  exact List.map_id _

/-- A further emission leaves the blocks with other names as they are. -/
theorem block_append_of_ne (emissions : List Emission) (last : Emission) (name : String)
    (other : last.name ≠ name) : block (emissions ++ [last]) name = block emissions name := by
  simp [block, List.find?_append, List.filter_append, other]

/-- A later emission under the name brings its lines but not its kind. -/
theorem block_append_of_mem (emissions : List Emission) (last : Emission)
    (present : last.name ∈ emissions.map name) :
    block (emissions ++ [last]) last.name =
      (block emissions last.name).extend last.lines.toList := by
  have found : (emissions.find? (·.name = last.name)).isSome := by
    simpa [List.find?_isSome] using present
  obtain ⟨first, foundFirst⟩ := Option.isSome_iff_exists.mp found
  ext1
  case name => rfl
  case kind => simp [block, Block.extend, List.find?_append, foundFirst]
  case lines =>
    apply Std.ExtTreeSet.ext_mem
    intro line
    simp [block, Block.extend, List.filter_append]

/-- A further emission with a new name is a block of its own. -/
theorem block_append_of_not_mem (emissions : List Emission) (last : Emission)
    (absent : last.name ∉ emissions.map name) :
    block (emissions ++ [last]) last.name =
      Block.ofLines last.name last.kind last.lines.toList := by
  have notFound : emissions.find? (·.name = last.name) = none := by
    simpa [List.find?_eq_none] using absent
  have nothing : emissions.filter (·.name = last.name) = [] := by
    simpa [List.filter_eq_nil_iff] using absent
  simp [block, Block.ofLines, List.find?_append, List.filter_append, notFound, nothing]

/-- A further emission with a name that is there extends its block. -/
theorem grouped_append_of_mem (emissions : List Emission) (last : Emission)
    (present : last.name ∈ emissions.map name) :
    grouped (emissions ++ [last]) = (grouped emissions).map fun block =>
      if block.name = last.name then block.extend last.lines.toList else block := by
  have old : [last.name].removeAll (emissions.map name) = [] := by
    simpa [List.removeAll] using present
  rw [grouped, grouped, List.map_append, List.eraseDups_append, List.map_singleton, old,
    List.eraseDups_nil, List.append_nil, List.map_map]
  apply List.map_congr_left
  intro other among
  by_cases same : other = last.name
  · subst same
    simp [block_append_of_mem emissions last present]
  · rw [block_append_of_ne emissions last other (Ne.symm same)]
    simp [same]

/-- A further emission with a new name comes last. -/
theorem grouped_append_of_not_mem (emissions : List Emission) (last : Emission)
    (absent : last.name ∉ emissions.map name) :
    grouped (emissions ++ [last]) =
      grouped emissions ++ [Block.ofLines last.name last.kind last.lines.toList] := by
  have new : [last.name].removeAll (emissions.map name) = [last.name] := by
    simpa [List.removeAll] using absent
  rw [grouped, grouped, List.map_append, List.eraseDups_append, List.map_singleton, new,
    List.map_append]
  congr 1
  · apply List.map_congr_left
    intro other among
    have different : last.name ≠ other := fun same =>
      absent (same ▸ List.mem_eraseDups.mp among)
    exact block_append_of_ne emissions last other different
  · rw [show [last.name].eraseDups = [last.name] from rfl, List.map_singleton,
      block_append_of_not_mem emissions last absent]

/-- A store that takes the emissions one after the other holds the grouped blocks. -/
theorem toList_foldl_addTo (emissions : List Emission) :
    (emissions.foldl addTo Store.empty).blocks.toList = grouped emissions := by
  induction emissions using List.reverseRecOn with
  | nil => rfl
  | append_singleton emissions last ih =>
    have names : (emissions.foldl addTo Store.empty).names = (emissions.map name).eraseDups := by
      rw [Store.names, ih, names_grouped]
    have known : last.name ∈ (emissions.foldl addTo Store.empty).names ↔
        last.name ∈ emissions.map name := by
      rw [names, List.mem_eraseDups]
    rw [List.foldl_append, List.foldl_cons, List.foldl_nil, addTo]
    by_cases present : last.name ∈ emissions.map name
    · rw [Store.toList_push_of_mem _ _ _ _ (known.mpr present), ih,
        grouped_append_of_mem emissions last present]
    · rw [Store.toList_push_of_not_mem _ _ _ _ (mt known.mp present), ih,
        grouped_append_of_not_mem emissions last present]

end Emission
end HostTree
