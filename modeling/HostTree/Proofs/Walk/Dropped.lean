/-
This file shows that the settings that are left out of the configuration do nothing but warn.
-/

import HostTree.Proofs.Outline.Dropped
import HostTree.Proofs.Setting.Order
import HostTree.Proofs.Walk.Outcome

namespace HostTree

/-- The effect warns of nothing, but the emission and the failure stay. -/
def Effect.quiet (effect : Effect) : Effect :=
  { effect with warnings := [] }

namespace Session

/-- The result and the store of a run do not depend on the warnings. -/
theorem perform_quiet (session : Session) (effects : List Effect) :
    (session.perform (effects.map Effect.quiet)).1 = (session.perform effects).1 ∧
      (session.perform (effects.map Effect.quiet)).2.store = (session.perform effects).2.store := by
  constructor
  · rw [perform_fst, perform_fst, List.findSome?_map]
    rfl
  · rw [perform_snd, perform_snd, store_foldl_take, store_foldl_take, upTo_map, List.filterMap_map]
    rfl

theorem warnings_perform_quiet (session : Session) (effects : List Effect) :
    (session.perform (effects.map Effect.quiet)).2.warnings = session.warnings := by
  apply Array.toList_inj.mp
  have silent : (upTo Effect.fails (effects.map Effect.quiet)).flatMap Effect.warnings = [] := by
    rw [upTo_map, List.flatMap_map, List.flatMap_eq_nil_iff]
    exact fun _ _ => rfl
  rw [perform_snd, warnings_foldl_take, silent, List.append_nil]

end Session

/-- Two documents whose visits differ in their warnings only have the same result. -/
theorem compile_of_quiet {first second : Value}
    (same : (Visit.ofDocument second).map Visit.effect =
      (Visit.ofDocument first).map (Effect.quiet ∘ Visit.effect)) :
    compile second = ((compile first).1, #[]) := by
  have outcome := Session.perform_quiet {} ((Visit.ofDocument first).map Visit.effect)
  have warnings := Session.warnings_perform_quiet {} ((Visit.ofDocument first).map Visit.effect)
  rw [List.map_map, ← same, ← Session.feed_eq_perform, ← Session.feed_eq_perform] at outcome
  rw [List.map_map, ← same, ← Session.feed_eq_perform] at warnings
  apply Prod.ext
  · have result (document : Value) : (compile document).1 =
      (({} : Session).feed document).1.map fun _ => (({} : Session).feed document).2.store := rfl
    rw [result, result, outcome.1, outcome.2]
  · exact warnings

namespace Visit

/-- These are the settings that hold for the visit, whether they are inherited or not. -/
def settings : Visit → List Setting
  | unreadable .. => []
  | iteration _ _ settings .. => settings

/-- A visit that does not fail warns once for each of its settings that is left out. -/
theorem warnings_of_passed {visit : Visit} (passed : visit.effect.failure = none) :
    visit.effect.warnings = visit.settings.filterMap Setting.notice? := by
  cases visit with
  | unreadable place failure => cases passed
  | iteration place declaration settings parentName item =>
    rw [effect] at passed ⊢
    cases named : declaration.blockName parentName item with
    | error failure =>
      rw [named] at passed
      cases passed
    | ok name =>
      rw [named] at passed
      refine (Setting.warnings_of_success passed).trans ?_
      exact congrArg (fun notice => settings.filterMap notice)
        (funext (Setting.warning?_eq_notice? item))

/-- An iteration without the settings that are left out does the same, but it warns of nothing. -/
theorem effect_pruned (place : List Nat) (declaration : Declaration)
    (ownChildren : List Child → List Child) (settings : List Setting) (parentName : String)
    (item : Option Value) :
    (iteration place (declaration.adjust id Setting.pruned ownChildren) (Setting.pruned settings)
      parentName item).effect =
      (iteration place declaration settings parentName item).effect.quiet := by
  rw [effect, effect, Declaration.blockName_adjust]
  cases declaration.blockName parentName item with
  | error failure => rfl
  | ok name =>
    rw [Setting.firstFailure?_pruned, Setting.lines_pruned, Setting.warnings_pruned]
    rfl

end Visit

namespace Outline

theorem settingsForChildren_pruned (declaration : Declaration)
    (ownChildren : List Child → List Child) (name : String) (settings : List Setting) :
    (declaration.adjust id Setting.pruned ownChildren).settingsForChildren name
      (Setting.pruned settings) =
      Setting.pruned (declaration.settingsForChildren name settings) := by
  have sameFlag : (declaration.adjust id Setting.pruned ownChildren).sharesSettings =
      declaration.sharesSettings := rfl
  rw [Declaration.settingsForChildren, Declaration.settingsForChildren, sameFlag]
  split <;> rfl

/-- The visits of a node become quiet when those of its children do. -/
theorem effects_node_pruned {place : List Nat} {parentName : String} {inherited : List Setting}
    {declaration : Declaration} {ownChildren : List Child → List Child}
    {children others : List Outline}
    (below : ∀ name shared,
      (visitsAll place 0 name (Setting.pruned shared) others).map Visit.effect =
        (visitsAll place 0 name shared children).map (Effect.quiet ∘ Visit.effect)) :
    (visits place parentName (Setting.pruned inherited)
      (node (declaration.adjust id Setting.pruned ownChildren) others)).map Visit.effect =
      (visits place parentName inherited (node declaration children)).map
        (Effect.quiet ∘ Visit.effect) := by
  rw [visits_node, visits_node, Declaration.settings_adjust, Setting.overlay_pruned,
    Declaration.items_adjust, List.map_flatMap, List.map_flatMap]
  apply congrArg (fun round => declaration.items.flatMap round)
  funext item
  rw [round, round, List.map_cons, List.map_cons, Visit.effect_pruned, visitsBelow, visitsBelow,
    Declaration.blockName_adjust]
  apply congrArg (_ :: ·)
  cases declaration.blockName parentName item with
  | error failure => rfl
  | ok name =>
    dsimp only
    rw [settingsForChildren_pruned]
    exact below _ _

-- The recursion is that of the document: a node, its entries, the content of one entry, its items.
mutual

/-- The visits of a pruned node do the same as those of the node, but they warn of nothing. -/
theorem effects_pruned (place : List Nat) (parentName : String) (inherited : List Setting)
    (value : Value) :
    (visits place parentName (Setting.pruned inherited) (ofValue value.pruned)).map Visit.effect =
      (visits place parentName inherited (ofValue value)).map (Effect.quiet ∘ Visit.effect) := by
  cases value with
  | mapping entries =>
    have below (name : String) (shared : List Setting) :=
      effects_prunedEntries place name shared entries
    have reads := Declaration.ofEntries_pruned entries
    rw [Value.pruned]
    generalize read : Declaration.ofEntries entries = result at reads
    generalize other : Declaration.ofEntries (Value.prunedEntries entries) = changed at reads
    cases reads with
    | failure failure =>
      rw [ofValue_of_failure read, ofValue_of_failure other]
      rfl
    | @success declaration changed relation =>
      obtain ⟨ownChildren, rfl⟩ := relation
      rw [ofValue_of_success read, ofValue_of_success other]
      exact effects_node_pruned below
  | string pattern =>
    have named : ofValue (Value.string pattern).pruned =
        node ((Declaration.named pattern).adjust id Setting.pruned id) [] := rfl
    rw [named]
    exact effects_node_pruned fun _ _ => rfl
  | _ => rfl
termination_by structural value

theorem effects_prunedEntries (place : List Nat) (parentName : String) (inherited : List Setting)
    (entries : List (String × Value)) :
    (visitsAll place 0 parentName (Setting.pruned inherited)
      ((Entries.childItems (Value.prunedEntries entries)).map ofValue)).map Visit.effect =
      (visitsAll place 0 parentName inherited ((Entries.childItems entries).map ofValue)).map
        (Effect.quiet ∘ Visit.effect) := by
  rw [Entries.childItems_pruned]
  match entries with
  | [] => rfl
  | (key, content) :: rest =>
    by_cases role : Role.ofKey key = .children
    · rw [Entries.childItems_cons_of_children role]
      exact effects_prunedChildren place parentName inherited content
    · rw [Entries.childItems_cons_of_other role, ← Entries.childItems_pruned]
      exact effects_prunedEntries place parentName inherited rest
termination_by structural entries

theorem effects_prunedChildren (place : List Nat) (parentName : String) (inherited : List Setting)
    (content : Value) :
    (visitsAll place 0 parentName (Setting.pruned inherited)
      ((content.items.map Value.pruned).map ofValue)).map Visit.effect =
      (visitsAll place 0 parentName inherited (content.items.map ofValue)).map
        (Effect.quiet ∘ Visit.effect) := by
  cases content with
  | sequence items => exact effects_prunedItems place 0 parentName inherited items
  | _ => rfl
termination_by structural content

theorem effects_prunedItems (place : List Nat) (position : Nat) (parentName : String)
    (inherited : List Setting) (items : List Value) :
    (visitsAll place position parentName (Setting.pruned inherited)
      ((items.map Value.pruned).map ofValue)).map Visit.effect =
      (visitsAll place position parentName inherited (items.map ofValue)).map
        (Effect.quiet ∘ Visit.effect) := by
  match items with
  | [] => rfl
  | item :: rest =>
    rw [List.map_cons, List.map_cons, List.map_cons, visitsAll, visitsAll, List.map_append,
      List.map_append]
    exact congrArg₂ _ (effects_pruned (place ++ [position]) parentName inherited item)
      (effects_prunedItems place (position + 1) parentName inherited rest)
termination_by structural items

end

end Outline

theorem Visit.effects_prunedDocument (document : Value) :
    (ofDocument document.prunedDocument).map effect =
      (ofDocument document).map (Effect.quiet ∘ effect) := by
  cases document with
  | sequence roots =>
    rw [Value.prunedDocument, ofDocument, ofDocument, Outline.ofDocument, Outline.ofDocument,
      Outline.ofItems_eq_map, Outline.ofItems_eq_map, Value.prunedItems_eq_map]
    exact Outline.effects_prunedItems [] 0 "" [] roots
  | mapping entries =>
    exact Outline.effects_prunedItems [] 0 "" [] [.mapping entries]
  | _ => rfl

/-- Warnings never change the result. A document has the same result as the document without the
settings that are left out, and this one warns of nothing. A compilation that succeeds has warned,
in the order of the visits, once for each setting that is left out and holds for the visit. -/
theorem warnings_never_matter (document : Value) :
    compile document.prunedDocument = ((compile document).1, #[]) ∧
      ∀ store, (compile document).1 = .ok store → (compile document).2.toList =
        (Visit.ofDocument document).flatMap fun visit =>
          visit.settings.filterMap Setting.notice? := by
  refine ⟨compile_of_quiet (Visit.effects_prunedDocument document), ?_⟩
  intro store compiled
  rw [compile_of_success (Visit.passed_of_compile compiled)]
  apply List.flatMap_congr
  intro visit among
  exact Visit.warnings_of_passed (Visit.failure_of_compile compiled among)

/-- A deprecated setting that is shared and then overridden warns once in each of two iterations. -/
theorem warnings_never_matter_cipher :
    ∃ store, (compile (.mapping [("Host", .string "gate"), ("inherit", .boolean true),
      ("cipher", .string "3des"), ("Compression", .boolean true),
      ("subhosts", .sequence [.mapping [("Host", .string "-a"), ("CIPHER", .string "none"),
        ("Protocol", .integer 2)]])])).1 = .ok store ∧
      (compile (.mapping [("Host", .string "gate"), ("inherit", .boolean true),
        ("cipher", .string "3des"), ("Compression", .boolean true),
        ("subhosts", .sequence [.mapping [("Host", .string "-a"), ("CIPHER", .string "none"),
          ("Protocol", .integer 2)]])])).2.toList =
        [.deprecated "Cipher", .deprecated "Cipher", .ignored "Protocol"] ∧
      compile (.mapping [("Host", .string "gate"), ("inherit", .boolean true),
        ("Compression", .boolean true),
        ("subhosts", .sequence [.mapping [("Host", .string "-a")]])]) = (.ok store, #[]) := by
  let inner : List (String × Value) :=
    [("Host", .string "-a"), ("CIPHER", .string "none"), ("Protocol", .integer 2)]
  let outer : List (String × Value) := [("Host", .string "gate"), ("inherit", .boolean true),
    ("cipher", .string "3des"), ("Compression", .boolean true),
    ("subhosts", .sequence [.mapping inner])]
  let own : Declaration :=
    { pattern := some "-a", settings := [⟨"CIPHER", .string "none"⟩, ⟨"Protocol", .integer 2⟩] }
  let root : Declaration :=
    { pattern := some "gate", sharesSettings := true,
      settings := [⟨"cipher", .string "3des"⟩, ⟨"Compression", .boolean true⟩],
      children := [.node inner] }
  have option : ∀ key ∈ ["cipher", "CIPHER", "Protocol", "Compression"],
      Role.ofKey key = .setting :=
    Role.ofKey_of_forall_notMem_reserved (by decide +kernel)
  have readInner : Declaration.ofEntries inner = .ok own := by
    rw [Declaration.ofEntries_eq_map]
    simp only [inner, Declaration.Draft.addAll_cons, Declaration.Draft.add_pattern Role.ofKey_host,
      Declaration.Draft.add_setting (option "CIPHER" (by simp)),
      Declaration.Draft.add_setting (option "Protocol" (by simp))]
    rfl
  have readOuter : Declaration.ofEntries outer = .ok root := by
    rw [Declaration.ofEntries_eq_map]
    simp only [outer, Declaration.Draft.addAll_cons, Declaration.Draft.add_pattern Role.ofKey_host,
      Declaration.Draft.add_sharing Role.ofKey_inherit,
      Declaration.Draft.add_setting (option "cipher" (by simp)),
      Declaration.Draft.add_setting (option "Compression" (by simp)),
      Declaration.Draft.add_children Role.ofKey_subhosts]
    rfl
  have innerChildren : Entries.childItems inner = [] := by
    simp [Entries.childItems, inner, Role.ofKey_host, option]
  have outerChildren : Entries.childItems outer = [.mapping inner] := by
    simp [Entries.childItems, outer, Role.ofKey_host, Role.ofKey_inherit, option,
      Role.ofKey_subhosts, Value.items]
  have outlines : Outline.ofDocument (.mapping outer) = [.node root [.node own []]] := by
    rw [Outline.ofDocument, Outline.ofValue_of_success readOuter, outerChildren, List.map_singleton,
      Outline.ofValue_of_success readInner, innerChildren]
    rfl
  have pruned : (Value.mapping outer).prunedDocument = .mapping [("Host", .string "gate"),
      ("inherit", .boolean true), ("Compression", .boolean true),
      ("subhosts", .sequence [.mapping [("Host", .string "-a")]])] := by
    have dropped : Keyword.isDropped "cipher" ∧ Keyword.isDropped "CIPHER" ∧
        Keyword.isDropped "Protocol" ∧ Keyword.isDropped "Compression" = false := by
      decide +kernel
    simp [Value.prunedDocument, Value.pruned, Value.prunedEntries, Value.prunedChildren,
      Value.prunedItems, Entries.isDropped, outer, inner, Role.ofKey_host, Role.ofKey_inherit,
      Role.ofKey_subhosts, option, dropped]
  have passed : (Visit.ofDocument (.mapping outer)).findSome?
      (fun visit => visit.effect.failure) = none := by
    rw [Visit.ofDocument, outlines]
    decide +kernel
  obtain ⟨store, compiled⟩ := Visit.exists_store passed
  obtain ⟨same, warned⟩ := warnings_never_matter (.mapping outer)
  refine ⟨store, compiled, (warned store compiled).trans ?_, ?_⟩
  · rw [Visit.ofDocument, outlines]
    decide +kernel
  · rw [← pruned, same, compiled]

end HostTree
