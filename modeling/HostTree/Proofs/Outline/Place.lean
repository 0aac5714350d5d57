/-
This file finds the node at a place of a document and changes it there.
-/

import HostTree.Proofs.Declaration.Childless
import Mathlib.Data.List.Forall2

namespace HostTree

namespace Value

/-- Two values are alike as children when both are nodes or names, or when they have the same
flaw. -/
def AlikeAsChild (first second : Value) : Prop :=
  Corresponds (fun _ _ => True) (Declaration.readChild first) (Declaration.readChild second)

theorem AlikeAsChild.refl (value : Value) : AlikeAsChild value value :=
  Corresponds.refl (fun _ => trivial) _

theorem readChildren_alike {first second : List Value}
    (alike : List.Forall₂ AlikeAsChild first second) :
    Corresponds (fun _ _ => True) (Declaration.readChildren (.sequence first))
      (Declaration.readChildren (.sequence second)) := by
  unfold Declaration.readChildren
  dsimp only
  induction alike with
  | nil => exact .success trivial
  | cons child rest ih =>
    rw [List.mapM_cons, List.mapM_cons]
    revert child
    unfold AlikeAsChild
    generalize Declaration.readChild _ = firstChild
    generalize Declaration.readChild _ = secondChild
    rintro (_ | flaw)
    · revert ih
      generalize List.mapM Declaration.readChild _ = firstRest
      generalize List.mapM Declaration.readChild _ = secondRest
      rintro (_ | flaw)
      · exact .success trivial
      · exact .failure flaw
    · exact .failure flaw

/-- These are the nodes that have no parent. -/
def roots : Value → List Value
  | mapping entries => [mapping entries]
  | sequence items => items
  | _ => []

/-- The path counts the children on each level below the value. -/
def descend? : List Nat → Value → Option Value
  | [], value => some value
  | position :: rest, mapping entries =>
    (Entries.childItems entries)[position]?.bind (descend? rest)
  | _ :: _, _ => none

/-- The place counts the roots first. -/
def nodeAt? (document : Value) : List Nat → Option Value
  | [] => none
  | position :: rest => document.roots[position]?.bind (descend? rest)

/-- The entries of the node at the end of the path change. -/
def changeBelow (change : List (String × Value) → List (String × Value)) : List Nat → Value → Value
  | [], mapping entries => mapping (change entries)
  | position :: rest, mapping entries =>
    mapping (Entries.mapChildItems (fun items => items.modify position (changeBelow change rest))
      entries)
  | _, other => other

/-- The entries of the node at the place change. -/
def changeAt (change : List (String × Value) → List (String × Value)) (document : Value) :
    List Nat → Value
  | [] => document
  | position :: rest =>
    match document with
    | mapping entries =>
      if position = 0 then changeBelow change rest (mapping entries) else document
    | sequence items => sequence (items.modify position (changeBelow change rest))
    | other => other

theorem descend?_append (first second : List Nat) (value : Value) :
    value.descend? (first ++ second) = (value.descend? first).bind (descend? second) := by
  induction first generalizing value with
  | nil => rfl
  | cons position rest ih =>
    cases value with
    | mapping entries =>
      rw [List.cons_append, descend?, descend?, Option.bind_assoc]
      exact congrArg _ (funext ih)
    | _ => rfl

theorem descend?_changeBelow {change : List (String × Value) → List (String × Value)}
    {path : List Nat} {value : Value} {entries : List (String × Value)}
    (found : value.descend? path = some (.mapping entries)) :
    (value.changeBelow change path).descend? path = some (.mapping (change entries)) := by
  induction path generalizing value with
  | nil =>
    cases found
    rfl
  | cons position rest ih =>
    cases value with
    | mapping parent =>
      obtain ⟨child, atPosition, below⟩ := Option.bind_eq_some_iff.mp found
      rw [changeBelow, descend?, Entries.childItems_modify, List.getElem?_modify_eq, atPosition]
      exact ih below
    | _ => cases found

/-- A change below a root changes this root only. -/
theorem roots_changeAt {change : List (String × Value) → List (String × Value)}
    {document root : Value} {position : Nat} (found : document.roots[position]? = some root)
    (rest : List Nat) :
    (document.changeAt change (position :: rest)).roots =
      document.roots.modify position (changeBelow change rest) := by
  cases document with
  | mapping entries =>
    cases position with
    | zero => cases rest <;> rfl
    | succ position => cases found
  | sequence items => rfl
  | _ => cases found

theorem nodeAt?_changeAt {change : List (String × Value) → List (String × Value)}
    {place : List Nat} {document : Value} {entries : List (String × Value)}
    (found : document.nodeAt? place = some (.mapping entries)) :
    (document.changeAt change place).nodeAt? place = some (.mapping (change entries)) := by
  cases place with
  | nil => cases found
  | cons position path =>
    obtain ⟨root, atPosition, below⟩ := Option.bind_eq_some_iff.mp found
    rw [nodeAt?, roots_changeAt atPosition, List.getElem?_modify_eq, atPosition]
    exact descend?_changeBelow below

theorem changeBelow_changeBelow (first second : List (String × Value) → List (String × Value))
    (path : List Nat) (value : Value) :
    (value.changeBelow first path).changeBelow second path =
      value.changeBelow (second ∘ first) path := by
  induction path generalizing value with
  | nil => cases value <;> rfl
  | cons position rest ih =>
    cases value with
    | mapping entries =>
      rw [changeBelow, changeBelow, changeBelow, Entries.mapChildItems_mapChildItems]
      refine congrArg (fun change => mapping (Entries.mapChildItems change entries)) ?_
      funext items
      rw [Function.comp_apply, List.modify_modify_eq]
      exact congrArg (items.modify position) (funext ih)
    | _ => rfl

/-- A second change at a place goes on from the first. -/
theorem changeAt_changeAt (first second : List (String × Value) → List (String × Value))
    (document : Value) (place : List Nat) :
    (document.changeAt first place).changeAt second place =
      document.changeAt (second ∘ first) place := by
  cases place with
  | nil => rfl
  | cons position rest =>
    cases document with
    | mapping entries =>
      by_cases root : position = 0
      · have below := changeBelow_changeBelow first second rest (mapping entries)
        cases rest <;> simpa only [changeAt, if_pos root, changeBelow] using below
      · simp only [changeAt, if_neg root]
    | sequence items =>
      rw [changeAt, changeAt, changeAt, List.modify_modify_eq]
      exact congrArg (fun change => sequence (items.modify position change))
        (funext (changeBelow_changeBelow first second rest))
    | _ => rfl

/-- The children of a node are found one step below it. -/
theorem nodeAt?_child {place : List Nat} {document : Value} {entries : List (String × Value)}
    (found : document.nodeAt? place = some (.mapping entries)) (position : Nat) :
    document.nodeAt? (place ++ [position]) = (Entries.childItems entries)[position]? := by
  cases place with
  | nil => cases found
  | cons root path =>
    rw [List.cons_append, nodeAt?]
    rw [nodeAt?] at found
    obtain ⟨node, atRoot, below⟩ := Option.bind_eq_some_iff.mp found
    rw [atRoot, Option.bind_some, descend?_append, below, Option.bind_some, descend?]
    cases (Entries.childItems entries)[position]? <;> rfl

theorem alike_changeBelow (change : List (String × Value) → List (String × Value))
    (path : List Nat) (value : Value) : AlikeAsChild value (changeBelow change path value) := by
  cases value with
  | mapping entries => cases path <;> exact .success trivial
  | _ =>
    cases path
    all_goals
      rw [changeBelow]
      · exact .refl _
      all_goals simp

theorem forall₂_modify {change : Value → Value} (alike : ∀ value, AlikeAsChild value (change value))
    (items : List Value) (position : Nat) :
    List.Forall₂ AlikeAsChild items (items.modify position change) := by
  induction items generalizing position with
  | nil =>
    rw [List.modify_nil]
    exact .nil
  | cons item rest ih =>
    cases position with
    | zero =>
      rw [List.modify_zero_cons]
      exact .cons (alike item) (List.forall₂_same.mpr fun other _ => .refl other)
    | succ position =>
      rw [List.modify_succ_cons]
      exact .cons (.refl item) (ih position)

end Value

namespace Declaration

/-- A change further down does not show in the declaration of a node, but for the children. -/
theorem ofEntries_changeBelow (change : List (String × Value) → List (String × Value))
    (position : Nat) (rest : List Nat) (entries : List (String × Value)) :
    Corresponds
      (fun declaration other => ∃ children, other = declaration.adjust id id fun _ => children)
      (ofEntries entries)
      (ofEntries (Entries.mapChildItems
        (fun items => items.modify position (Value.changeBelow change rest)) entries)) := by
  have same := ofEntries_mapChildItems (fun items => Value.readChildren_alike
    (Value.forall₂_modify (Value.alike_changeBelow change rest) items position)) entries
  exact corresponds_of_same_childless same

end Declaration

namespace Outline

theorem ofDocument_eq_map {document root : Value} (present : root ∈ document.roots) :
    ofDocument document = document.roots.map ofValue := by
  cases document with
  | mapping entries => rfl
  | sequence items => exact ofItems_eq_map items
  | _ => cases present

end Outline
end HostTree
