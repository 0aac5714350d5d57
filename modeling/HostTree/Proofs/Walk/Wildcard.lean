/-
This file follows the options of nodes without a pattern into the block of the wildcard.
-/

import HostTree.Proofs.Outline.Place
import HostTree.Proofs.Walk.Name

namespace HostTree

namespace Outline

theorem exists_root_of_ofDocument {document : Value} {position : Nat} {declaration : Declaration}
    {children : List Outline}
    (found : (ofDocument document)[position]? = some (node declaration children)) :
    ∃ root, document.roots[position]? = some root ∧ ofValue root = node declaration children := by
  have read (roots : List Value)
      (among : (roots.map ofValue)[position]? = some (node declaration children)) :
      ∃ root, roots[position]? = some root ∧ ofValue root = node declaration children := by
    rwa [List.getElem?_map, Option.map_eq_some_iff] at among
  cases document with
  | mapping entries => exact read [.mapping entries] found
  | sequence items => exact read items (ofItems_eq_map items ▸ found)
  | null => cases found
  | _ => cases position <;> cases found

end Outline

namespace Chain

variable {document : Value} {above : List Iteration} {last : Iteration}

/-- The last iteration of a chain is one of the node at its place. -/
theorem exists_node (chain : Chain document above last) :
    ∃ value, document.nodeAt? last.place = some value ∧
      Outline.ofValue value = .node last.declaration last.children := by
  apply chain.invariant
  case root =>
    intro first isOf
    obtain ⟨position, here, found⟩ := isOf.node
    obtain ⟨root, atRoot, read⟩ := Outline.exists_root_of_ofDocument found
    refine ⟨root, ?_, read⟩
    rw [here, List.nil_append, Value.nodeAt?, atRoot]
    rfl
  case step =>
    rintro parent child ⟨value, reached, read⟩ ⟨name, _, isOf⟩
    obtain ⟨position, here, found⟩ := isOf.node
    rcases Outline.of_ofValue_eq_node read with ⟨entries, rfl, _, below⟩ | ⟨_, rfl, _, childless⟩
    · rw [below, List.getElem?_map, Option.map_eq_some_iff] at found
      obtain ⟨item, atPosition, readItem⟩ := found
      refine ⟨item, ?_, readItem⟩
      rw [here, Value.nodeAt?_child reached, atPosition]
    · rw [childless] at found
      cases found

end Chain

/-- A node without a pattern is a host. -/
theorem Declaration.of_patterns_eq_nil {entries : List (String × Value)}
    {declaration : Declaration} (read : ofEntries entries = .ok declaration)
    (plain : Entries.patterns entries = []) :
    declaration.kind = .host ∧ declaration.pattern = none := by
  obtain ⟨_, parts⟩ := ofEntries_eq_ok_iff.mp read
  have naming := parts.pattern
  rw [plain] at naming
  obtain ⟨kind, pattern⟩ := Prod.mk.inj (Except.ok.inj naming)
  exact ⟨kind.symm, pattern.symm⟩

namespace Visit

/-- This is the first visit that emits under the name. -/
def firstUnder? (name : String) (visits : List Visit) : Option Visit :=
  visits.find? fun visit => visit.effect.emission.any (·.name = name)

variable {name : String} {visits : List Visit} {visit : Visit} {emission : Emission}

theorem exists_firstUnder? (among : visit ∈ visits) (emits : visit.effect.emission = some emission)
    (named : emission.name = name) :
    ∃ first firstEmission, firstUnder? name visits = some first ∧ first ∈ visits ∧
      first.effect.emission = some firstEmission := by
  have present : (firstUnder? name visits).isSome :=
    List.find?_isSome.mpr ⟨visit, among, by simp [emits, named]⟩
  obtain ⟨first, found⟩ := Option.isSome_iff_exists.mp present
  have holds := (List.find?_eq_some_iff_append.mp found).1
  obtain ⟨firstEmission, emitted, _⟩ := (Option.any_eq_true _ _).mp holds
  exact ⟨first, firstEmission, found, List.mem_of_find?_eq_some found, emitted⟩

/-- A block has the kind that it began with. -/
theorem kind_block_of_firstUnder? (first : firstUnder? name visits = some visit)
    (emits : visit.effect.emission = some emission) :
    (Emission.block (emissions visits) name).kind = emission.kind := by
  have found : (emissions visits).find? (·.name = name) = some emission := by
    rw [emissions, List.find?_filterMap]
    exact (congrArg (Option.bind · _) first).trans emits
  rw [Emission.block, found]
  rfl

end Visit

/-- In a document that compiles, each iteration of a shown node without a pattern has its lines in
the block of the wildcard. This block has the kind of the node that is the first in the walk to emit
under the wildcard, which may be a match. A node without a pattern is a host. -/
theorem wildcard_of_compile {document : Value} {store : Store}
    (compiled : (compile document).1 = .ok store) {above : List Iteration} {last : Iteration}
    (chain : Chain document above last) {entries : List (String × Value)}
    (node : document.nodeAt? last.place = some (.mapping entries))
    (plain : Entries.patterns entries = []) (shown : last.declaration.hidden = false) :
    last.declaration.kind = .host ∧
    ∃ block ∈ store.blocks.toList, block.name = "*" ∧
      (∀ line ∈ Setting.lines last.item last.settings, line ∈ block.lines) ∧
      ∃ others first, Chain document others first ∧
        Visit.firstUnder? "*" (Visit.ofDocument document) = some first.visit ∧
        block.kind = first.declaration.kind := by
  obtain ⟨value, reached, read⟩ := chain.exists_node
  rw [node] at reached
  cases reached
  rcases Outline.of_ofValue_eq_node read with ⟨_, ⟨⟩, success, _⟩ | ⟨_, ⟨⟩, _⟩
  obtain ⟨host, unnamed⟩ := Declaration.of_patterns_eq_nil success plain
  have named : last.name = .ok wildcard := by
    rw [Iteration.name, Declaration.blockName, unnamed]
  have emitted := Visit.emission_of_shown named shown
    (Visit.failure_of_compile compiled chain.visit_mem)
  have among : ⟨wildcard, last.declaration.kind, .ofList (Setting.lines last.item last.settings)⟩ ∈
      Visit.emissions (Visit.ofDocument document) :=
    List.mem_filterMap.mpr ⟨last.visit, chain.visit_mem, emitted⟩
  refine ⟨host, Emission.block (Visit.emissions (Visit.ofDocument document)) wildcard, ?_, rfl, ?_,
    ?_⟩
  · rw [Store.blocks_of_compile compiled, Emission.grouped]
    apply List.mem_map_of_mem
    exact List.mem_eraseDups.mpr (List.mem_map_of_mem among)
  · intro line present
    refine (Emission.mem_block_lines _ _ _).mpr ⟨_, among, rfl, ?_⟩
    simpa using present
  · obtain ⟨first, firstEmission, found, visited, emits⟩ :=
      Visit.exists_firstUnder? chain.visit_mem emitted rfl
    have ends := Visit.endsChain visited
    cases first with
    | unreadable place failure => cases emits
    | iteration place declaration settings parentName item =>
      obtain ⟨others, children, firstChain⟩ := ends
      obtain ⟨_, _, rfl⟩ := Visit.exists_name_of_emission emits
      exact ⟨others, _, firstChain, found, Visit.kind_block_of_firstUnder? found emits⟩

namespace Outline

/-- This is the outline of a match without options. -/
theorem ofValue_match (pattern : String) :
    ofValue (.mapping [("Match", .string pattern)]) =
      node { kind := .matching, pattern := some pattern } [] := by
  have read : Declaration.ofEntries [("Match", .string pattern)] =
      .ok { kind := .matching, pattern := some pattern } := by
    rw [Declaration.ofEntries_eq_map, Declaration.Draft.addAll_cons,
      Declaration.Draft.add_pattern Role.ofKey_match]
    rfl
  have childless : Entries.childItems [("Match", .string pattern)] = [] := by
    simp [Entries.childItems, Role.ofKey_match]
  rw [ofValue_of_success read, childless]
  rfl

theorem role_compression : Role.ofKey "Compression" = .setting :=
  Role.ofKey_of_notMem_reserved (by decide +kernel)

theorem patterns_compression : Entries.patterns [("Compression", .boolean true)] = [] := by
  rw [Entries.patterns_cons, role_compression]
  rfl

/-- This is the outline of a node with one option and without a pattern. -/
theorem ofValue_compression :
    ofValue (.mapping [("Compression", .boolean true)]) =
      node { settings := [⟨"Compression", .boolean true⟩] } [] := by
  have read : Declaration.ofEntries [("Compression", .boolean true)] =
      .ok { settings := [⟨"Compression", .boolean true⟩] } := by
    rw [Declaration.ofEntries_eq_map, Declaration.Draft.addAll_cons,
      Declaration.Draft.add_setting role_compression]
    rfl
  have childless : Entries.childItems [("Compression", .boolean true)] = [] := by
    simp [Entries.childItems, role_compression]
  rw [ofValue_of_success read, childless]
  rfl

end Outline

/-- A later match with the name of the wildcard does not change the kind of the block. -/
theorem wildcard_of_compile_match :
    ∃ store, (compile (.sequence [.mapping [("Compression", .boolean true)],
      .mapping [("Match", .string "*")]])).1 = .ok store ∧
      ∃ block ∈ store.blocks.toList, block.name = "*" ∧ block.kind = .host ∧
        "Compression yes" ∈ block.lines := by
  let document : Value := .sequence [.mapping [("Compression", .boolean true)],
    .mapping [("Match", .string "*")]]
  let globals : Declaration := { settings := [⟨"Compression", .boolean true⟩] }
  let matching : Declaration := { kind := .matching, pattern := some "*" }
  have outlines : Outline.ofDocument document = [.node globals [], .node matching []] := by
    rw [Outline.ofDocument, Outline.ofItems_eq_map, List.map_cons, List.map_singleton,
      Outline.ofValue_compression, Outline.ofValue_match]
  have visits : Visit.ofDocument document =
      [.iteration [0] globals globals.settings "" none, .iteration [1] matching [] "" none] := by
    rw [Visit.ofDocument, outlines]
    rfl
  have passed : (Visit.ofDocument document).findSome? (fun visit => visit.effect.failure) =
      none := by
    rw [visits]
    decide +kernel
  obtain ⟨store, compiled⟩ := Visit.exists_store passed
  let last : Iteration := ⟨[0], globals, [], globals.settings, "", none⟩
  have chain : Chain document [] last :=
    .root ⟨⟨0, rfl, by rw [outlines]; rfl⟩, rfl, rfl, List.mem_singleton.mpr rfl⟩
  obtain ⟨_, block, present, name, lines, _, first, _, found, kind⟩ :=
    wildcard_of_compile compiled chain rfl Outline.patterns_compression rfl
  have sameVisit : first.visit = last.visit := by
    rw [visits, Visit.firstUnder?, List.find?_cons_of_pos (by decide +kernel)] at found
    exact (Option.some.inj found).symm
  have host : first.declaration.kind = .host := by
    rw [Iteration.visit, Iteration.visit] at sameVisit
    rw [(Visit.iteration.inj sameVisit).2.1]
  refine ⟨store, compiled, block, present, name, kind.trans host, lines _ ?_⟩
  decide +kernel

/-- An earlier match with the name of the wildcard takes the options of a node without a pattern
into its block. -/
theorem options_below_match :
    ∃ document store above last entries, (compile document).1 = .ok store ∧
      Chain document above last ∧ document.nodeAt? last.place = some (.mapping entries) ∧
      Entries.patterns entries = [] ∧ last.declaration.hidden = false ∧
      document = .sequence [.mapping [("Match", .string "*")],
        .mapping [("Compression", .boolean true)]] ∧
      store.blocks.toList = [⟨"*", .matching, .ofList ["Compression yes"]⟩] := by
  let document : Value := .sequence [.mapping [("Match", .string "*")],
    .mapping [("Compression", .boolean true)]]
  let matching : Declaration := { kind := .matching, pattern := some "*" }
  let globals : Declaration := { settings := [⟨"Compression", .boolean true⟩] }
  have outlines : Outline.ofDocument document = [.node matching [], .node globals []] := by
    rw [Outline.ofDocument, Outline.ofItems_eq_map, List.map_cons, List.map_singleton,
      Outline.ofValue_compression, Outline.ofValue_match]
  have passed : (Visit.ofDocument document).findSome? (fun visit => visit.effect.failure) =
      none := by
    rw [Visit.ofDocument, outlines]
    decide +kernel
  obtain ⟨store, compiled⟩ := Visit.exists_store passed
  have blocks : store.blocks.toList = [⟨"*", .matching, .ofList ["Compression yes"]⟩] := by
    rw [Store.blocks_of_compile compiled, Visit.ofDocument, outlines]
    decide +kernel
  let last : Iteration := ⟨[1], globals, [], globals.settings, "", none⟩
  have chain : Chain document [] last :=
    .root ⟨⟨1, rfl, by rw [outlines]; rfl⟩, rfl, rfl, List.mem_singleton.mpr rfl⟩
  exact ⟨document, store, [], last, _, compiled, chain, rfl, Outline.patterns_compression, rfl, rfl,
    blocks⟩

end HostTree
