/-
This file shows that the order of the keys of a node does not matter for the configuration.
-/

import HostTree.Proofs.Declaration.Order
import HostTree.Proofs.Setting.Order
import HostTree.Proofs.Walk.Context
import HostTree.Proofs.Walk.Run
import Mathlib.Logic.Relation

namespace HostTree

/-- Two effects are alike when both fail, or when they emit the same and warn of the same in some
order. -/
structure Effect.Alike (first second : Effect) : Prop where
  fails : first.fails = second.fails
  emission : first.emission = second.emission
  warnings : first.failure = none → first.warnings.Perm second.warnings

theorem Effect.Alike.refl (effect : Effect) : effect.Alike effect :=
  ⟨rfl, rfl, fun _ => .refl _⟩

namespace Visit

/-- The visits of two walks are alike one by one. -/
def Alike (first second : List Visit) : Prop :=
  List.Forall₂ Effect.Alike (first.map effect) (second.map effect)

theorem congruence_alike : Congruence Alike := by
  constructor
  case same =>
    intro first second same
    rw [Alike, same]
    exact List.forall₂_same.mpr fun effect _ => .refl effect
  case append =>
    intro first second firstRest secondRest now later
    rw [Alike, List.map_append, List.map_append]
    exact List.rel_append now later

open Outline

/-- The order of the settings of an iteration shows in its warnings only. -/
theorem effect_alike_of_perm {place : List Nat} {parentName : String}
    {settings permuted : List Setting} (perm : settings.Perm permuted) (declaration : Declaration)
    (item : Option Value) :
    (iteration place declaration settings parentName item).effect.Alike
      (iteration place declaration permuted parentName item).effect := by
  rw [effect, effect]
  cases declaration.blockName parentName item with
  | error failure => exact .refl _
  | ok name =>
    have sameFailure := Setting.isSome_firstFailure?_perm perm item
    constructor
    case fails => exact sameFailure
    case emission => simp only [sameFailure, Setting.lineSet_perm perm]
    case warnings => exact fun passed => Setting.warnings_perm perm passed

/-- Two rounds are alike when their settings differ in the order only, and the rounds below them are
alike for all such settings. -/
theorem alike_round {place : List Nat} {parentName : String} {settings permuted : List Setting}
    (perm : settings.Perm permuted) {declaration : Declaration}
    {ownSettings : List Setting → List Setting} {children : List Outline} {item : Option Value}
    (below : ∀ name shared others, shared.Perm others →
      Alike (visitsAll place 0 name shared children) (visitsAll place 0 name others children)) :
    Alike (round place declaration settings parentName children item)
      (round place (declaration.adjust id ownSettings id) permuted parentName children item) := by
  have later : Alike (visitsBelow place declaration settings parentName children item)
      (visitsBelow place declaration permuted parentName children item) := by
    unfold visitsBelow
    cases declaration.blockName parentName item with
    | error failure => exact .nil
    | ok name =>
      apply below
      unfold Declaration.settingsForChildren
      split
      · exact perm
      · exact .refl []
  exact .cons (effect_alike_of_perm perm declaration item) later

mutual

/-- The order of inherited settings does not matter for the visits of an outline. -/
theorem alike_visits {settings permuted : List Setting} (perm : settings.Perm permuted)
    (place : List Nat) (parentName : String) (outline : Outline) :
    Alike (visits place parentName settings outline)
      (visits place parentName permuted outline) := by
  cases outline with
  | invalid failure => exact congruence_alike.same rfl
  | node declaration children =>
    rw [visits_node, visits_node]
    apply congruence_alike.flatMap
    intro item _
    change Alike _ (round place (declaration.adjust id id id) _ parentName children item)
    apply alike_round (Setting.overlay_perm perm (.refl _))
    intro name shared others sharedPerm
    exact alike_visitsAll sharedPerm place 0 name children
termination_by structural outline

theorem alike_visitsAll {settings permuted : List Setting} (perm : settings.Perm permuted)
    (place : List Nat) (position : Nat) (parentName : String) (outlines : List Outline) :
    Alike (visitsAll place position parentName settings outlines)
      (visitsAll place position parentName permuted outlines) := by
  cases outlines with
  | nil => exact .nil
  | cons first rest =>
    rw [visitsAll, visitsAll]
    apply congruence_alike.append
    · exact alike_visits perm (place ++ [position]) parentName first
    · exact alike_visitsAll perm place (position + 1) parentName rest
termination_by structural outlines

end

/-- A node with permuted entries has visits that are alike. -/
theorem alike_of_perm {entries permuted : List (String × Value)} (perm : entries.Perm permuted)
    (distinct : Entries.Distinct entries) (place : List Nat) (parentName : String)
    (settings : List Setting) :
    Alike (visits place parentName settings (ofValue (.mapping entries)))
      (visits place parentName settings (ofValue (.mapping permuted))) := by
  cases read : Declaration.ofEntries entries with
  | error failure =>
    cases other : Declaration.ofEntries permuted with
    | error otherFailure =>
      rw [ofValue_of_failure read, ofValue_of_failure other]
      refine .cons ⟨rfl, rfl, ?_⟩ .nil
      rintro ⟨⟩
    | ok declaration =>
      have otherDistinct : Entries.Distinct permuted := (perm.map Prod.fst).nodup distinct
      rw [Declaration.ofEntries_of_perm perm.symm otherDistinct other] at read
      cases read
  | ok declaration =>
    have other := Declaration.ofEntries_of_perm perm distinct read
    have sameChildren : Entries.childItems permuted = Entries.childItems entries := by
      obtain ⟨childrenKey, parts⟩ := Declaration.ofEntries_eq_ok_iff.mp read
      rw [Entries.childItems_eq, Entries.childItems_eq,
        Declaration.ofRole_children_eq_of_perm perm parts.children]
    have settingsPerm : declaration.settings.Perm (Setting.ofEntries permuted) := by
      rw [Declaration.settings_of_ofEntries read]
      exact Setting.ofEntries_perm perm
    rw [ofValue_of_success read, ofValue_of_success other, sameChildren, visits_node, visits_node]
    apply congruence_alike.flatMap
    intro item _
    apply alike_round (Setting.overlay_perm (.refl settings) settingsPerm)
    intro name shared others sharedPerm
    exact alike_visitsAll sharedPerm place 0 name _

end Visit

namespace Effect

variable {first second : List Effect}

theorem isSome_findSome?_alike (alike : List.Forall₂ Alike first second) :
    (first.findSome? failure).isSome = (second.findSome? failure).isSome := by
  induction alike with
  | nil => rfl
  | @cons effect other rest others same _ ih =>
    have fails := same.fails
    rw [Effect.fails, Effect.fails] at fails
    rw [List.findSome?_cons, List.findSome?_cons]
    cases failed : effect.failure <;> cases otherFailed : other.failure
    · exact ih
    · simp [failed, otherFailed] at fails
    · simp [failed, otherFailed] at fails
    · rfl

theorem emissions_alike (alike : List.Forall₂ Alike first second) :
    first.filterMap emission = second.filterMap emission := by
  induction alike with
  | nil => rfl
  | cons same _ ih => rw [List.filterMap_cons, List.filterMap_cons, same.emission, ih]

theorem warnings_alike (alike : List.Forall₂ Alike first second)
    (passed : first.findSome? failure = none) :
    (first.flatMap warnings).Perm (second.flatMap warnings) := by
  induction alike with
  | nil => exact .refl []
  | cons same _ ih =>
    rw [List.findSome?_eq_none_iff] at passed
    rw [List.flatMap_cons, List.flatMap_cons]
    apply List.Perm.append
    · exact same.warnings (passed _ List.mem_cons_self)
    · apply ih
      rw [List.findSome?_eq_none_iff]
      exact fun effect among => passed effect (List.mem_cons_of_mem _ among)

end Effect

/-- Two outcomes are the same when both are failures, or when they are the same store with the same
warnings in some order. -/
structure SameOutcome (first second : Except Failure Store × Array Warning) : Prop where
  succeeds : first.1.isOk = second.1.isOk
  store : ∀ store, first.1 = .ok store → second.1 = .ok store
  warnings : first.1.isOk → first.2.toList.Perm second.2.toList

namespace SameOutcome

theorem refl (outcome : Except Failure Store × Array Warning) : SameOutcome outcome outcome :=
  ⟨rfl, fun _ => id, fun _ => .refl _⟩

theorem trans {first second third : Except Failure Store × Array Warning}
    (now : SameOutcome first second) (later : SameOutcome second third) :
    SameOutcome first third where
  succeeds := now.succeeds.trans later.succeeds
  store := fun store success => later.store store (now.store store success)
  warnings := fun success =>
    (now.warnings success).trans (later.warnings (now.succeeds ▸ success))

end SameOutcome

theorem sameOutcome_of_alike {document other : Value}
    (alike : Visit.Alike (Visit.ofDocument document) (Visit.ofDocument other)) :
    SameOutcome (compile document) (compile other) := by
  have sameFailure := Effect.isSome_findSome?_alike alike
  rw [List.findSome?_map, List.findSome?_map, Function.comp_def] at sameFailure
  cases failed : (Visit.ofDocument document).findSome? fun visit => visit.effect.failure with
  | some failure =>
    rw [failed, Option.isSome_some] at sameFailure
    obtain ⟨otherFailure, otherFailed⟩ := Option.isSome_iff_exists.mp sameFailure.symm
    rw [compile_of_failure failed, compile_of_failure otherFailed]
    constructor
    case succeeds => rfl
    case store => rintro _ ⟨⟩
    case warnings => rintro ⟨⟩
  | none =>
    rw [failed, Option.isSome_none] at sameFailure
    have otherPassed := Option.isSome_eq_false_iff.mp sameFailure.symm
    rw [Option.isNone_iff_eq_none] at otherPassed
    have emissions := Effect.emissions_alike alike
    have warnings := Effect.warnings_alike alike (by rw [List.findSome?_map]; exact failed)
    rw [List.filterMap_map, List.filterMap_map] at emissions
    rw [List.flatMap_map, List.flatMap_map] at warnings
    rw [compile_of_success failed, compile_of_success otherPassed]
    constructor
    case succeeds => rfl
    case store =>
      rintro store ⟨⟩
      exact congrArg (fun all => Except.ok (all.foldl Emission.addTo Store.empty)) emissions.symm
    case warnings => exact fun _ => warnings

namespace Value

/-- The entries of one node change their order. The keys of a mapping are distinct. -/
def ReorderedOnce (document reordered : Value) : Prop :=
  ∃ place entries permuted, document.nodeAt? place = some (.mapping entries) ∧
    Entries.Distinct entries ∧ entries.Perm permuted ∧
    reordered = document.changeAt (fun _ => permuted) place

/-- The entries of any nodes change their order, one node after the other. -/
def Reordered : Value → Value → Prop :=
  Relation.ReflTransGen ReorderedOnce

end Value

theorem sameOutcome_of_reorderedOnce {document reordered : Value}
    (step : document.ReorderedOnce reordered) :
    SameOutcome (compile document) (compile reordered) := by
  obtain ⟨place, entries, permuted, found, distinct, perm, rfl⟩ := step
  apply sameOutcome_of_alike
  apply Visit.congruence_alike.changeAt found
  intro parentName settings _
  exact Visit.alike_of_perm perm distinct place parentName settings

/-- The order of the keys of nodes does not matter. If their entries change their order, the
compilation still succeeds or fails, and when it succeeds it gives the same store, so the same text,
and the same warnings in some order. -/
theorem compile_reordered {document reordered : Value} (order : document.Reordered reordered) :
    SameOutcome (compile document) (compile reordered) := by
  induction order with
  | refl => exact .refl _
  | tail _ step ih => exact ih.trans (sameOutcome_of_reorderedOnce step)

/-- A child and then its parent turn their keys around. -/
theorem compile_reordered_reversed :
    SameOutcome
      (compile (.mapping [("Host", .string "a"), ("Port", .integer 22),
        ("subhosts", .sequence [.mapping [("Host", .string "b"), ("User", .string "c")]])]))
      (compile (.mapping [
        ("subhosts", .sequence [.mapping [("User", .string "c"), ("Host", .string "b")]]),
        ("Port", .integer 22), ("Host", .string "a")])) := by
  let child : List (String × Value) := [("Host", .string "b"), ("User", .string "c")]
  let root (below : List (String × Value)) : List (String × Value) :=
    [("Host", .string "a"), ("Port", .integer 22), ("subhosts", .sequence [.mapping below])]
  have host : Role.ofKey "Host" ≠ .children := by simp [Role.ofKey_host]
  have option : Role.ofKey "Port" = .setting := Role.ofKey_of_notMem_reserved (by decide +kernel)
  have port : Role.ofKey "Port" ≠ .children := by simp [option]
  have inner : Value.ReorderedOnce (.mapping (root child)) (.mapping (root child.reverse)) := by
    refine ⟨[0, 0], child, child.reverse, ?_, ?_, (List.reverse_perm child).symm, ?_⟩
    · have found : (Value.mapping (root child)).nodeAt? [0] = some (.mapping (root child)) := rfl
      refine (Value.nodeAt?_child found 0).trans ?_
      rw [Entries.childItems_cons_of_other host, Entries.childItems_cons_of_other port,
        Entries.childItems_cons_of_children Role.ofKey_subhosts]
      rfl
    · simp [Entries.Distinct, child]
    · refine congrArg Value.mapping ?_
      rw [Entries.mapChildItems_cons_of_other host, Entries.mapChildItems_cons_of_other port,
        Entries.mapChildItems_cons_of_children Role.ofKey_subhosts]
      rfl
  have outer : Value.ReorderedOnce (.mapping (root child.reverse))
      (.mapping (root child.reverse).reverse) := by
    refine ⟨[0], root child.reverse, (root child.reverse).reverse, rfl, ?_,
      (List.reverse_perm _).symm, rfl⟩
    simp [Entries.Distinct, root]
  exact compile_reordered (.tail (.single inner) outer)

end HostTree
