/-
This file shows that roots may change places and come again.
-/

import HostTree.Proofs.Outline.Children
import HostTree.Proofs.Store.Merging
import HostTree.Proofs.Walk.Wildcard

namespace HostTree

theorem Outline.compileAll_eq_forM (parentName : String) (inherited : List Setting)
    (outlines : List Outline) :
    compileAll parentName inherited outlines = outlines.forM (compile parentName inherited) := by
  induction outlines with
  | nil => rfl
  | cons outline rest ih =>
    rw [compileAll, ih]
    rfl

namespace Value

/-- These are the effects of a root, wherever it stands. -/
def effects (root : Value) : List Effect :=
  (Outline.visits [] "" [] (Outline.ofValue root)).map Visit.effect

def emissions (root : Value) : List Emission :=
  root.effects.filterMap Effect.emission

end Value

/-- The roots have their effects one after the other, and none of them looks at the store. -/
theorem Session.feed_sequence (session : Session) (roots : List Value) :
    session.feed (.sequence roots) = session.perform (roots.flatMap Value.effects) := by
  rw [feed, Outline.ofDocument, Outline.ofItems_eq_map, Outline.compileAll_eq_forM,
    Compilation.run_forM _ _ _ (Outline.run_compile [] "" []), List.flatMap_map]
  rfl

/-- Roots compile together if each of them compiles alone. -/
theorem compile_roots {roots : List Value}
    (each : ∀ root ∈ roots, ∃ alone, (compile (.sequence [root])).1 = .ok alone) :
    (compile (.sequence roots)).1 =
      .ok ((roots.flatMap Value.emissions).foldl Emission.addTo Store.empty) := by
  have passed : ∀ effect ∈ roots.flatMap Value.effects, effect.failure = none := by
    intro effect among
    obtain ⟨root, member, own⟩ := List.mem_flatMap.mp among
    obtain ⟨alone, compiled⟩ := each root member
    rw [compile, Session.feed_sequence, List.flatMap_singleton] at compiled
    have outcome := Session.perform_fst {} root.effects
    cases failed : root.effects.findSome? Effect.failure with
    | none => exact List.findSome?_eq_none_iff.mp failed effect own
    | some failure =>
      rw [failed] at outcome
      simp only [outcome] at compiled
      cases compiled
  have emissions : (roots.flatMap Value.effects).filterMap Effect.emission =
      roots.flatMap Value.emissions := List.filterMap_flatMap
  rw [compile, Session.feed_sequence, Session.perform_of_success passed]
  simp only [Session.store_foldl_take, emissions]
  rfl

/-- The order and the repetition of roots do not matter for the names and their lines. If each root
compiles alone, then the roots compile in any order and any number of times, the names of the blocks
are the same, and so are the lines of each name. If the roots come in order and some of them come
again behind, then the store is the same with its order and its kinds. -/
theorem compile_repeated {roots others : List Value}
    (each : ∀ root ∈ roots, ∃ alone, (compile (.sequence [root])).1 = .ok alone)
    (same : ∀ root, root ∈ others ↔ root ∈ roots) :
    ∃ store other, (compile (.sequence roots)).1 = .ok store ∧
      (compile (.sequence others)).1 = .ok other ∧
      (∀ name, name ∈ other.names ↔ name ∈ store.names) ∧
      (∀ name, (other.get? name).map Block.lines = (store.get? name).map Block.lines) ∧
      ∀ repeats, others = roots ++ repeats → other = store := by
  have emissions : ∀ emission,
      emission ∈ others.flatMap Value.emissions ↔ emission ∈ roots.flatMap Value.emissions := by
    simp only [List.mem_flatMap, same, implies_true]
  refine ⟨_, _, compile_roots each,
    compile_roots fun root among => each root ((same root).mp among), ?_, ?_, ?_⟩
  · intro name
    rw [Store.mem_names_foldl_addTo, Store.mem_names_foldl_addTo]
    simp only [List.mem_map, emissions]
  · exact Store.lines_foldl_addTo_congr emissions
  · rintro repeats rfl
    rw [List.flatMap_append]
    apply Store.foldl_addTo_append_of_subset
    intro emission among
    apply (emissions emission).mp
    rw [List.flatMap_append]
    exact List.mem_append_right _ among

/-- The wildcard changes its kind with the order of the roots, but not its lines. -/
theorem compile_repeated_wildcard :
    ∃ store other, (compile (.sequence [.mapping [("Match", .string "*")],
      .mapping [("Compression", .boolean true)]])).1 = .ok store ∧
      (compile (.sequence [.mapping [("Compression", .boolean true)],
        .mapping [("Match", .string "*")], .mapping [("Compression", .boolean true)]])).1 =
        .ok other ∧
      ∀ name, (other.get? name).map Block.lines = (store.get? name).map Block.lines := by
  let matching : Value := .mapping [("Match", .string "*")]
  let globals : Value := .mapping [("Compression", .boolean true)]
  have readMatching : ∃ alone, (compile (.sequence [matching])).1 = .ok alone := by
    apply Visit.exists_store
    rw [Visit.ofDocument, Outline.ofDocument, Outline.ofItems_eq_map, List.map_singleton,
      Outline.ofValue_match]
    decide +kernel
  have readGlobals : ∃ alone, (compile (.sequence [globals])).1 = .ok alone := by
    apply Visit.exists_store
    rw [Visit.ofDocument, Outline.ofDocument, Outline.ofItems_eq_map, List.map_singleton,
      Outline.ofValue_compression]
    decide +kernel
  have each : ∀ root ∈ [matching, globals],
      ∃ alone, (compile (.sequence [root])).1 = .ok alone := by
    rintro root among
    rcases List.mem_pair.mp among with rfl | rfl
    · exact readMatching
    · exact readGlobals
  have same : ∀ root, root ∈ [globals, matching, globals] ↔ root ∈ [matching, globals] := by
    intro root
    simp only [List.mem_cons, List.not_mem_nil, or_false]
    exact ⟨fun among => among.elim .inr id, .inr⟩
  obtain ⟨store, other, compiled, compiledOther, _, lines, _⟩ := compile_repeated each same
  exact ⟨store, other, compiled, compiledOther, lines⟩

end HostTree
