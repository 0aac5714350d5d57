/-
This file shows that hiding a node erases the emissions of this node and nothing else.
-/

import HostTree.Proofs.Declaration.Hiding
import HostTree.Proofs.Walk.Context
import HostTree.Proofs.Walk.Outcome

namespace HostTree

/-- The emission is erased, but the warnings and the failure stay. -/
def Effect.silent (effect : Effect) : Effect :=
  { effect with emission := none }

/-- The result and the warnings of a run do not depend on what is emitted. -/
theorem Session.perform_silent (session : Session) (effects : List Effect) :
    (session.perform (effects.map Effect.silent)).1 = (session.perform effects).1 ∧
      (session.perform (effects.map Effect.silent)).2.warnings =
        (session.perform effects).2.warnings := by
  constructor
  · rw [perform_fst, perform_fst, List.findSome?_map]
    rfl
  · apply Array.toList_inj.mp
    rw [perform_snd, perform_snd, warnings_foldl_take, warnings_foldl_take, upTo_map,
      List.flatMap_map]
    rfl

/-- Two documents with the same warnings and failures have the same outcome, but for the store. -/
theorem compile_of_silent {first second : Value}
    (same : (Visit.ofDocument first).map (Effect.silent ∘ Visit.effect) =
      (Visit.ofDocument second).map (Effect.silent ∘ Visit.effect)) :
    (compile first).1.map (fun _ => ()) = (compile second).1.map (fun _ => ()) ∧
      (compile first).2 = (compile second).2 := by
  have outcome (document : Value) := Session.perform_silent {}
    ((Visit.ofDocument document).map Visit.effect)
  simp only [List.map_map, ← Session.feed_eq_perform] at outcome
  have result (document : Value) :
      (compile document).1.map (fun _ => ()) = (({} : Session).feed document).1 := by
    rw [compile]
    rcases ({} : Session).feed document with ⟨_ | _, _⟩ <;> rfl
  rw [result, result, ← (outcome first).1, ← (outcome second).1, same]
  refine ⟨rfl, ?_⟩
  change (({} : Session).feed first).2.warnings = (({} : Session).feed second).2.warnings
  rw [← (outcome first).2, ← (outcome second).2, same]

namespace Visit

open Outline

/-- The visits at the target do not emit any more. -/
def effectWithout (target : List Nat) (visit : Visit) : Effect :=
  if visit.place = target then visit.effect.silent else visit.effect

def Hides (target : List Nat) (first second : List Visit) : Prop :=
  second.map effect = first.map (effectWithout target)

variable {target : List Nat} {first second : List Visit}

theorem hides_of_away (away : ∀ visit ∈ first, visit.place ≠ target)
    (same : first.map effect = second.map effect) : Hides target first second := by
  rw [Hides, ← same]
  apply List.map_congr_left
  intro visit among
  rw [effectWithout, if_neg (away visit among)]

theorem localCongruence_hides : LocalCongruence target (Hides target) := by
  constructor
  case same => exact fun same away => hides_of_away away same
  case append =>
    intro first second firstRest secondRest now later
    rw [Hides, List.map_append, List.map_append, now, later]

theorem effect_hidden (place : List Nat) (declaration : Declaration) (settings : List Setting)
    (parentName : String) (item : Option Value) :
    (iteration place { declaration with hidden := true } settings parentName item).effect =
      (iteration place declaration settings parentName item).effect.silent := by
  have sameName : ({ declaration with hidden := true } : Declaration).blockName parentName item =
      declaration.blockName parentName item := rfl
  rw [effect, effect, sameName]
  cases declaration.blockName parentName item with
  | error failure => rfl
  | ok name =>
    dsimp only [Effect.silent]
    rw [if_pos (.inl rfl)]

/-- A node does the same when it is hidden, but its own iterations do not emit. -/
theorem hides_setHidden {entries : List (String × Value)} (distinct : Entries.Distinct entries)
    (place : List Nat) (parentName : String) (settings : List Setting) :
    Hides place
      (visits place parentName settings (ofValue (.mapping (Entries.setHidden false entries))))
      (visits place parentName settings (ofValue (.mapping (Entries.setHidden true entries)))) := by
  have reads := Declaration.ofEntries_setHidden distinct
  generalize read : Declaration.ofEntries (Entries.setHidden false entries) = result at reads
  generalize other : Declaration.ofEntries (Entries.setHidden true entries) = changed at reads
  cases reads with
  | failure failure =>
    rw [ofValue_of_failure read, ofValue_of_failure other]
    simp [Hides, visits, effectWithout, effect, Effect.silent, Visit.place]
  | @success declaration changed relation =>
    obtain ⟨shown, rfl⟩ := relation
    rw [ofValue_of_success read, ofValue_of_success other, Entries.childItems_setHidden,
      Entries.childItems_setHidden, visits_node, visits_node]
    apply localCongruence_hides.flatMap
    intro item _
    have own : Hides place
        [.iteration place declaration (Setting.overlay settings declaration.settings) parentName
          item]
        [.iteration place { declaration with hidden := true }
          (Setting.overlay settings declaration.settings) parentName item] := by
      rw [Hides, List.map_singleton, List.map_singleton, effect_hidden, effectWithout]
      exact congrArg (fun effect => [effect]) (if_pos rfl).symm
    apply localCongruence_hides.append own
    apply hides_of_away ?away rfl
    intro visit among
    split at among
    · cases among
    · obtain ⟨position, _, below⟩ := place_of_mem_visitsAll among
      rintro here
      have longer := below.length_le
      rw [here, List.length_append, List.length_singleton] at longer
      omega

/-- Only the visits at the target lose their emissions. -/
theorem emissions_of_hides (hides : Hides target first second) :
    emissions second = emissions (first.filter (·.place ≠ target)) := by
  have all : emissions second = (second.map effect).filterMap Effect.emission := by
    rw [List.filterMap_map]
    rfl
  rw [all, hides, List.filterMap_map, emissions, List.filterMap_filter]
  apply List.filterMap_congr
  intro visit _
  by_cases here : visit.place = target <;>
    simp [effectWithout, here, Effect.silent]

theorem mem_emissions_iff (visits : List Visit) (target : List Nat) {emission : Emission} :
    emission ∈ emissions visits ↔
      emission ∈ emissions (visits.filter (·.place ≠ target)) ∨
        emission ∈ emissions (visits.filter (·.place = target)) := by
  simp only [emissions, List.mem_filterMap, List.mem_filter, decide_eq_true_eq]
  constructor
  · rintro ⟨visit, among, emits⟩
    by_cases here : visit.place = target
    · exact .inr ⟨visit, ⟨among, here⟩, emits⟩
    · exact .inl ⟨visit, ⟨among, here⟩, emits⟩
  · rintro (⟨visit, ⟨among, _⟩, emits⟩ | ⟨visit, ⟨among, _⟩, emits⟩)
    · exact ⟨visit, among, emits⟩
    · exact ⟨visit, among, emits⟩

theorem silent_of_hides (hides : Hides target first second) :
    second.map (Effect.silent ∘ effect) = first.map (Effect.silent ∘ effect) := by
  rw [← List.map_map, hides, List.map_map]
  apply List.map_congr_left
  intro visit _
  rw [Function.comp_apply, effectWithout]
  split <;> rfl

end Visit

/-- Hiding a node erases the emissions of its own iterations and nothing else. The compilation of
the document with the node shown and with the node hidden has the same success or failure and the
same warnings, the emissions of all other visits are the same, and so each block of the first holds
the lines that it holds in the second and those that the node emits under its name. -/
theorem hiding_erases_emissions {document : Value} {place : List Nat}
    {entries : List (String × Value)} (found : document.nodeAt? place = some (.mapping entries))
    (distinct : Entries.Distinct entries) :
    let shown := document.changeAt (Entries.setHidden false) place
    let hidden := document.changeAt (Entries.setHidden true) place
    (compile hidden).1.map (fun _ => ()) = (compile shown).1.map (fun _ => ()) ∧
    (compile hidden).2 = (compile shown).2 ∧
    Visit.emissions (Visit.ofDocument hidden) =
      Visit.emissions ((Visit.ofDocument shown).filter (·.place ≠ place)) ∧
    ∀ before after, (compile shown).1 = .ok before → (compile hidden).1 = .ok after →
      before.blocks.toList = Emission.grouped (Visit.emissions (Visit.ofDocument shown)) ∧
      after.blocks.toList = Emission.grouped
        (Visit.emissions ((Visit.ofDocument shown).filter (·.place ≠ place))) ∧
      ∀ name line, before.Holds name line ↔ after.Holds name line ∨
        ∃ emission ∈ Visit.emissions ((Visit.ofDocument shown).filter (·.place = place)),
          emission.name = name ∧ line ∈ emission.lines := by
  intro shown hidden
  have hides : Visit.Hides place (Visit.ofDocument shown) (Visit.ofDocument hidden) := by
    have same : hidden = shown.changeAt (Entries.setHidden true) place := by
      rw [Value.changeAt_changeAt]
      refine congrArg (fun change => document.changeAt change place) (funext fun entries => ?_)
      exact (Entries.insert_insert _ _ _ _).symm
    rw [same]
    apply Visit.localCongruence_hides.changeAt (Value.nodeAt?_changeAt found)
    intro parentName settings _
    have twice : Entries.setHidden true (Entries.setHidden false entries) =
        Entries.setHidden true entries := Entries.insert_insert _ _ _ _
    rw [twice]
    exact Visit.hides_setHidden distinct place parentName settings
  have erased := Visit.emissions_of_hides hides
  obtain ⟨result, warnings⟩ := compile_of_silent (Visit.silent_of_hides hides)
  refine ⟨result, warnings, erased, ?_⟩
  intro before after shownCompiled hiddenCompiled
  refine ⟨Store.blocks_of_compile shownCompiled, ?_, ?_⟩
  · rw [Store.blocks_of_compile hiddenCompiled, erased]
  · intro name line
    rw [Store.holds_iff shownCompiled, Store.holds_iff hiddenCompiled, erased]
    simp only [Visit.mem_emissions_iff (Visit.ofDocument shown) place, or_and_right, exists_or]

/-- The child of a hidden node still has the name of this node before its own. -/
theorem hiding_erases_emissions_parent :
    Visit.emissions (Visit.ofDocument (.mapping [("Host", .string "a"),
      ("subhosts", .sequence [.string "b"]), ("hide", .boolean true)])) =
        [⟨"ab", .host, ∅⟩] := by
  let root : List (String × Value) :=
    [("Host", .string "a"), ("subhosts", .sequence [.string "b"])]
  let declaration : Declaration := { pattern := some "a", children := [.name "b"] }
  have written : Entries.setHidden false root = [("Host", .string "a"),
      ("subhosts", .sequence [.string "b"]), ("hide", .boolean false)] := by
    simp [Entries.setHidden, Entries.insert, root]
  have read : Declaration.ofEntries (Entries.setHidden false root) = .ok declaration := by
    rw [Declaration.ofEntries_eq_map, written]
    simp only [Declaration.Draft.addAll_cons, Declaration.Draft.add_pattern Role.ofKey_host,
      Declaration.Draft.add_children Role.ofKey_subhosts,
      Declaration.Draft.add_hiding Role.ofKey_hide]
    rfl
  have children : Entries.childItems root = [.string "b"] := by
    simp [Entries.childItems, root, Role.ofKey_host, Role.ofKey_subhosts, Value.items]
  have shown : Visit.ofDocument (.mapping (Entries.setHidden false root)) =
      [.iteration [0] declaration [] "" none, .iteration [0, 0] (.named "b") [] "a" none] := by
    rw [Visit.ofDocument, Outline.ofDocument, Outline.ofValue_of_success read,
      Entries.childItems_setHidden, children]
    rfl
  have found : (Value.mapping root).nodeAt? [0] = some (.mapping root) := rfl
  have distinct : Entries.Distinct root := by simp [Entries.Distinct, root]
  obtain ⟨_, _, erased, _⟩ := hiding_erases_emissions found distinct
  refine erased.trans ?_
  change Visit.emissions ((Visit.ofDocument (.mapping (Entries.setHidden false root))).filter _) = _
  rw [shown]
  rfl

end HostTree
