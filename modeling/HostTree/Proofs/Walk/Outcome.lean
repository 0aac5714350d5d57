/-
This file reads a compiled store off the visits of its document.
-/

import HostTree.Proofs.Walk.Run

namespace HostTree

def Visit.emissions (visits : List Visit) : List Emission :=
  visits.filterMap fun visit => visit.effect.emission

/-- An emission has the name of its iteration, the kind of its node and the lines of its
settings. -/
theorem Visit.exists_name_of_emission {place : List Nat} {declaration : Declaration}
    {settings : List Setting} {parentName : String} {item : Option Value} {emission : Emission}
    (emitted : (iteration place declaration settings parentName item).effect.emission =
      some emission) :
    ∃ name, declaration.blockName parentName item = .ok name ∧
      emission = ⟨name, declaration.kind, .ofList (Setting.lines item settings)⟩ := by
  rw [effect] at emitted
  cases named : declaration.blockName parentName item with
  | error failure =>
    rw [named] at emitted
    cases emitted
  | ok name =>
    rw [named] at emitted
    obtain ⟨_, shown⟩ := Option.ite_none_left_eq_some.mp emitted
    exact ⟨name, rfl, (Option.some.inj shown).symm⟩

theorem Visit.of_emission {place : List Nat} {declaration : Declaration} {settings : List Setting}
    {parentName : String} {item : Option Value} {emission : Emission}
    (emitted : (iteration place declaration settings parentName item).effect.emission =
      some emission) :
    declaration.blockName parentName item = .ok emission.name ∧
      emission.lines = .ofList (Setting.lines item settings) := by
  obtain ⟨name, named, rfl⟩ := exists_name_of_emission emitted
  exact ⟨named, rfl⟩

/-- A shown iteration that does not fail emits the lines of its settings. -/
theorem Visit.emission_of_shown {place : List Nat} {declaration : Declaration}
    {settings : List Setting} {parentName name : String} {item : Option Value}
    (named : declaration.blockName parentName item = .ok name)
    (shown : declaration.hidden = false)
    (passed : (iteration place declaration settings parentName item).effect.failure = none) :
    (iteration place declaration settings parentName item).effect.emission =
      some ⟨name, declaration.kind, .ofList (Setting.lines item settings)⟩ := by
  rw [effect, named] at passed ⊢
  dsimp only at passed ⊢
  rw [passed, shown]
  rfl

/-- The line stands in the block of the name. -/
def Store.Holds (store : Store) (name line : String) : Prop :=
  ∃ block ∈ store.blocks.toList, block.name = name ∧ line ∈ block.lines

variable {document : Value} {store : Store}

/-- The compilation succeeds only if no visit fails. -/
theorem Visit.passed_of_compile (compiled : (compile document).1 = .ok store) :
    (ofDocument document).findSome? (fun visit => visit.effect.failure) = none := by
  cases failed : (ofDocument document).findSome? fun visit => visit.effect.failure with
  | none => rfl
  | some failure =>
    rw [compile_of_failure failed] at compiled
    cases compiled

theorem Visit.exists_store
    (passed : (ofDocument document).findSome? (fun visit => visit.effect.failure) = none) :
    ∃ store, (compile document).1 = .ok store :=
  ⟨_, congrArg Prod.fst (compile_of_success passed)⟩

/-- One visit that fails is enough for the compilation to fail. -/
theorem Visit.exists_failure {visit : Visit} (among : visit ∈ ofDocument document)
    (fails : visit.effect.fails) : ∃ failure, (compile document).1 = .error failure := by
  have failed : ((ofDocument document).findSome? fun visit => visit.effect.failure).isSome := by
    rw [List.isSome_findSome?]
    exact List.any_eq_true.mpr ⟨visit, among, fails⟩
  obtain ⟨failure, first⟩ := Option.isSome_iff_exists.mp failed
  exact ⟨failure, congrArg Prod.fst (compile_of_failure first)⟩

theorem Visit.failure_of_compile (compiled : (compile document).1 = .ok store) {visit : Visit}
    (among : visit ∈ ofDocument document) : visit.effect.failure = none :=
  List.findSome?_eq_none_iff.mp (passed_of_compile compiled) visit among

namespace Store

theorem blocks_of_compile (compiled : (compile document).1 = .ok store) :
    store.blocks.toList = Emission.grouped (Visit.emissions (Visit.ofDocument document)) := by
  rw [compile_of_success (Visit.passed_of_compile compiled)] at compiled
  cases compiled
  exact Emission.toList_foldl_addTo _

/-- The blocks of a compiled store are those that a visit emits. -/
theorem mem_names_iff (compiled : (compile document).1 = .ok store) {name : String} :
    name ∈ store.names ↔
      ∃ emission ∈ Visit.emissions (Visit.ofDocument document), emission.name = name := by
  rw [names, blocks_of_compile compiled, Emission.names_grouped, List.mem_eraseDups, List.mem_map]

/-- The lines of a compiled store are those that a visit emits. -/
theorem holds_iff (compiled : (compile document).1 = .ok store) {name line : String} :
    store.Holds name line ↔ ∃ emission ∈ Visit.emissions (Visit.ofDocument document),
      emission.name = name ∧ line ∈ emission.lines := by
  rw [Holds, blocks_of_compile compiled, Emission.grouped]
  constructor
  · rintro ⟨block, among, rfl, present⟩
    obtain ⟨name, _, rfl⟩ := List.mem_map.mp among
    exact (Emission.mem_block_lines _ _ _).mp present
  · rintro ⟨emission, among, rfl, present⟩
    refine ⟨Emission.block _ emission.name, List.mem_map.mpr ⟨emission.name, ?_, rfl⟩, rfl, ?_⟩
    · exact List.mem_eraseDups.mpr (List.mem_map_of_mem among)
    · exact (Emission.mem_block_lines _ _ _).mpr ⟨emission, among, rfl, present⟩

end Store
end HostTree
