/-
This file shows that the walk fails at an unknown option, wherever it reaches the node.
-/

import HostTree.Proofs.Declaration.Order
import HostTree.Proofs.Outline.Place
import HostTree.Proofs.Setting.Layering
import HostTree.Proofs.Setting.Line
import HostTree.Proofs.Walk.Outcome

namespace HostTree

namespace Value

/-- The node stands at the value or below it, under any key for children. The nodes above it are
listed from the outside. -/
inductive Descends : Value → List (List (String × Value)) → List (String × Value) → Prop where
  | here (node : List (String × Value)) : Descends (mapping node) [] node
  | child {parent node : List (String × Value)} {above : List (List (String × Value))}
    {key : String} {items : List Value} {item : Value} (among : (key, sequence items) ∈ parent)
    (role : Role.ofKey key = .children) (member : item ∈ items)
    (rest : item.Descends above node) : Descends (mapping parent) (parent :: above) node

end Value

namespace Entries

/-- The loop of the node has an item, if the node has a loop. -/
def HasTurn (entries : List (String × Value)) : Prop :=
  ∀ declaration loop, Declaration.ofEntries entries = .ok declaration →
    declaration.loop = some loop → loop.elements ≠ []

theorem hasTurn_of_read {entries : List (String × Value)} {declaration : Declaration}
    (read : Declaration.ofEntries entries = .ok declaration)
    (turn : ∀ loop, declaration.loop = some loop → loop.elements ≠ []) : HasTurn entries := by
  intro other loop again looped
  rw [read] at again
  cases again
  exact turn loop looped

theorem exists_turn {entries : List (String × Value)} (turn : HasTurn entries)
    {declaration : Declaration} (read : Declaration.ofEntries entries = .ok declaration) :
    ∃ item, item ∈ declaration.items := by
  rw [Declaration.items]
  cases looped : declaration.loop with
  | none => exact ⟨none, List.mem_singleton.mpr rfl⟩
  | some loop =>
    obtain ⟨element, rest, elements⟩ :=
      List.exists_cons_of_ne_nil (turn declaration loop read looped)
    exact ⟨some element, List.mem_map_of_mem (elements ▸ List.mem_cons_self)⟩

/-- A node that can be read has one key for children at most, so that no children are missed. -/
theorem childItems_of_mem {entries : List (String × Value)} {declaration : Declaration}
    (read : Declaration.ofEntries entries = .ok declaration) {key : String} {content : Value}
    (among : (key, content) ∈ entries) (role : Role.ofKey key = .children) :
    childItems entries = content.items := by
  obtain ⟨_, parts⟩ := Declaration.ofEntries_eq_ok_iff.mp read
  have short := Declaration.length_le_one_of_readFamily parts.children
  have present : (key, content) ∈ ofRole .children entries :=
    List.mem_filter.mpr ⟨among, by simpa using role⟩
  rw [childItems_eq]
  match found : ofRole .children entries, short with
  | [], _ =>
    rw [found] at present
    cases present
  | [entry], _ =>
    rw [found, List.mem_singleton] at present
    rw [← present]
    rfl

end Entries

namespace Setting

variable {setting : Setting} {settings : List Setting} {item : Option Value}

theorem failure?_of_unknown (setting : Setting) (unknown : Keyword.find? setting.name = none) :
    setting.failure? item = some (.unknownOption setting.name) := by
  rw [failure?, compile_of_unknown unknown]

theorem isSome_firstFailure?_of_mem (among : setting ∈ settings)
    (failed : (setting.failure? item).isSome) : (firstFailure? item settings).isSome := by
  rw [firstFailure?, List.isSome_findSome?]
  exact List.any_eq_true.mpr ⟨setting, among, failed⟩

end Setting

namespace Visit

open Outline

variable {place : List Nat} {parentName : String} {inherited : List Setting}

/-- An iteration fails if it has no name or if one of its settings fails. -/
theorem fails_iteration {declaration : Declaration} {settings : List Setting}
    {item : Option Value} (failed : (Setting.firstFailure? item settings).isSome) :
    (iteration place declaration settings parentName item).effect.fails := by
  rw [effect]
  cases declaration.blockName parentName item with
  | error failure => rfl
  | ok name => exact failed

/-- A node with a turn leads to a failure if it cannot be read, if its iteration fails, or if one of
the visits below this iteration does. -/
theorem exists_fails_of_turn {entries : List (String × Value)} (turn : Entries.HasTurn entries)
    (round : ∀ declaration, Declaration.ofEntries entries = .ok declaration →
      ∀ item, ∃ visit ∈ Outline.round place declaration
        (Setting.overlay inherited declaration.settings) parentName
        ((Entries.childItems entries).map ofValue) item, visit.effect.fails) :
    ∃ visit ∈ visits place parentName inherited (ofValue (.mapping entries)),
      visit.effect.fails := by
  cases read : Declaration.ofEntries entries with
  | error failure =>
    rw [ofValue_of_failure read]
    exact ⟨.unreadable place failure, List.mem_singleton.mpr rfl, rfl⟩
  | ok declaration =>
    obtain ⟨item, among⟩ := Entries.exists_turn turn read
    obtain ⟨visit, during, fails⟩ := round declaration read item
    rw [ofValue_of_success read, visits_node]
    exact ⟨visit, List.mem_flatMap.mpr ⟨item, among, during⟩, fails⟩

/-- A failing visit below an iteration is reached, unless the iteration fails itself. -/
theorem exists_fails_round {declaration : Declaration} {settings : List Setting}
    {children : List Outline} {item : Option Value}
    (below : ∀ name shared, ∃ visit ∈ visitsAll place 0 name shared children,
      visit.effect.fails) :
    ∃ visit ∈ Outline.round place declaration settings parentName children item,
      visit.effect.fails := by
  cases named : declaration.blockName parentName item with
  | error failure =>
    refine ⟨_, List.mem_cons_self, ?_⟩
    rw [effect, named]
    rfl
  | ok name =>
    obtain ⟨visit, among, fails⟩ := below (declaration.nameForChildren name)
      (declaration.settingsForChildren name settings)
    refine ⟨visit, List.mem_cons_of_mem _ ?_, fails⟩
    rw [visitsBelow, named]
    exact among

/-- The walk fails at a value if a node below it has an unknown option and every node on the way has
a turn. What the nodes on the way hide, share or name does not matter. -/
theorem exists_fails_of_unknown {value : Value} {above : List (List (String × Value))}
    {node : List (String × Value)} (descends : value.Descends above node)
    (turns : ∀ entries ∈ node :: above, Entries.HasTurn entries) {entry : String × Value}
    (among : entry ∈ node) (option : Role.ofKey entry.1 = .setting)
    (unknown : Keyword.find? entry.1 = none) :
    ∃ visit ∈ visits place parentName inherited (ofValue value), visit.effect.fails := by
  -- The induction is on the way down, and the settings that a node inherits may be any.
  induction descends generalizing place parentName inherited with
  | here node =>
    apply exists_fails_of_turn (turns node List.mem_cons_self)
    intro declaration read item
    have own : (⟨entry.1, entry.2⟩ : Setting) ∈ declaration.settings := by
      rw [Declaration.settings_of_ofEntries read]
      exact List.mem_filterMap.mpr ⟨entry, among, if_pos option⟩
    have effective : ⟨entry.1, entry.2⟩ ∈ Setting.overlay inherited declaration.settings := by
      rw [Setting.overlay_eq_append]
      exact List.mem_append_right _ own
    have failed : (Setting.firstFailure? item
        (Setting.overlay inherited declaration.settings)).isSome := by
      apply Setting.isSome_firstFailure?_of_mem effective
      rw [Setting.failure?_of_unknown ⟨entry.1, entry.2⟩ unknown]
      rfl
    exact ⟨_, List.mem_cons_self, fails_iteration failed⟩
  | @child parent node above key items child present role member rest ih =>
    have turnsBelow : ∀ entries ∈ node :: above, Entries.HasTurn entries := by
      intro entries inside
      rcases List.mem_cons.mp inside with rfl | higher
      · exact turns entries List.mem_cons_self
      · exact turns entries (List.mem_cons_of_mem node (List.mem_cons_of_mem parent higher))
    apply exists_fails_of_turn (turns parent (List.mem_cons_of_mem node List.mem_cons_self))
    intro declaration read item
    apply exists_fails_round
    intro name shared
    rw [Entries.childItems_of_mem read present role, Value.items]
    obtain ⟨position, atPosition⟩ := List.mem_iff_getElem?.mp member
    have outlined : (items.map ofValue)[position]? = some (ofValue child) := by
      rw [List.getElem?_map, atPosition]
      rfl
    obtain ⟨visit, reached, fails⟩ := ih turnsBelow among
    exact ⟨visit, mem_visitsAll_iff.mpr ⟨position, ofValue child, outlined, reached⟩, fails⟩

end Visit

/-- An unknown option is not dropped silently. If a node of the document, at any depth, has an
option that no row of the keyword table spells, then the compilation fails, whatever the node and
those above it hide, share or name, as long as no loop of theirs is without an item. -/
theorem unknown_option_fails {document root : Value} (among : root ∈ document.roots)
    {above : List (List (String × Value))} {node : List (String × Value)}
    (descends : root.Descends above node) {entry : String × Value} (present : entry ∈ node)
    (option : Role.ofKey entry.1 = .setting)
    (unknown : ∀ row ∈ Keyword.table.toList, row.spelling ≠ Text.foldCase entry.1)
    (turns : ∀ entries ∈ node :: above, Entries.HasTurn entries) :
    ∃ failure, (compile document).1 = .error failure := by
  obtain ⟨position, atPosition⟩ := List.mem_iff_getElem?.mp among
  obtain ⟨visit, reached, fails⟩ := Visit.exists_fails_of_unknown descends turns present option
    (Keyword.find?_eq_none unknown)
  refine Visit.exists_failure ?_ fails
  rw [Visit.ofDocument, Outline.ofDocument_eq_map among]
  refine Outline.mem_visitsAll_iff.mpr ⟨position, Outline.ofValue root, ?_, reached⟩
  rw [List.getElem?_map, atPosition]
  rfl

/-- The option of a child is checked even if the parent is hidden, has a loop and does not name its
children. -/
theorem unknown_option_fails_hidden :
    ∃ failure, (compile (.mapping [("hide", .boolean true), ("prefix", .boolean false),
      ("with_items", .sequence [.integer 1]),
      ("subhosts", .sequence [.mapping [("NotAnOption", .integer 1)]])])).1 = .error failure := by
  let inner : List (String × Value) := [("NotAnOption", .integer 1)]
  let outer : List (String × Value) := [("hide", .boolean true), ("prefix", .boolean false),
    ("with_items", .sequence [.integer 1]), ("subhosts", .sequence [.mapping inner])]
  have option : Role.ofKey "NotAnOption" = .setting :=
    Role.ofKey_of_notMem_reserved (by decide +kernel)
  have readInner : Declaration.ofEntries inner =
      .ok { settings := [⟨"NotAnOption", .integer 1⟩] } := by
    rw [Declaration.ofEntries_eq_map]
    simp only [inner, Declaration.Draft.addAll_cons, Declaration.Draft.add_setting option]
    rfl
  have readOuter : Declaration.ofEntries outer =
      .ok { hidden := true, namesChildren := false, loop := some (.items [.integer 1]),
            children := [.node inner] } := by
    rw [Declaration.ofEntries_eq_map]
    simp only [outer, Declaration.Draft.addAll_cons, Declaration.Draft.add_hiding Role.ofKey_hide,
      Declaration.Draft.add_naming Role.ofKey_prefix, Declaration.Draft.add_looping Role.ofKey_loop,
      Declaration.Draft.add_children Role.ofKey_subhosts]
    rfl
  have descends : (Value.mapping outer).Descends [outer] inner :=
    .child (List.mem_of_getElem? (rfl : outer[3]? = some ("subhosts", .sequence [.mapping inner])))
      Role.ofKey_subhosts List.mem_cons_self (.here inner)
  have innerTurn : Entries.HasTurn inner := Entries.hasTurn_of_read readInner (by simp)
  have outerTurn : Entries.HasTurn outer :=
    Entries.hasTurn_of_read readOuter (by simp [Loop.elements])
  have unknown : ∀ row ∈ Keyword.table.toList, row.spelling ≠ Text.foldCase "NotAnOption" := by
    decide +kernel
  exact unknown_option_fails (List.mem_singleton.mpr rfl) descends List.mem_cons_self option unknown
    (by simp [innerTurn, outerTurn])

/-- An option that no row of the table spells goes unseen below a loop without items. -/
theorem unknown_option_without_turn :
    ∃ document store entry, (compile document).1 = .ok store ∧ store.blocks.toList = [] ∧
      document = .mapping [("Host", .string "a"), ("with_items", .sequence []), entry] ∧
      Role.ofKey entry.1 = .setting ∧
      ∀ row ∈ Keyword.table.toList, row.spelling ≠ Text.foldCase entry.1 := by
  let entry : String × Value := ("NotAnOption", .integer 1)
  let entries : List (String × Value) :=
    [("Host", .string "a"), ("with_items", .sequence []), entry]
  have option : Role.ofKey "NotAnOption" = .setting :=
    Role.ofKey_of_notMem_reserved (by decide +kernel)
  have read : Declaration.ofEntries entries =
      .ok { pattern := some "a", loop := some (.items []),
            settings := [⟨"NotAnOption", .integer 1⟩] } := by
    rw [Declaration.ofEntries_eq_map]
    simp only [entries, entry, Declaration.Draft.addAll_cons,
      Declaration.Draft.add_pattern Role.ofKey_host,
      Declaration.Draft.add_looping Role.ofKey_loop, Declaration.Draft.add_setting option]
    rfl
  have visits : Visit.ofDocument (.mapping entries) = [] := by
    rw [Visit.ofDocument, Outline.ofDocument, Outline.ofValue_of_success read]
    rfl
  obtain ⟨store, compiled⟩ := Visit.exists_store (visits ▸ List.findSome?_nil)
  have blocks : store.blocks.toList = [] := by
    rw [Store.blocks_of_compile compiled, visits]
    rfl
  exact ⟨.mapping entries, store, entry, compiled, blocks, rfl, option, by decide +kernel⟩

end HostTree
