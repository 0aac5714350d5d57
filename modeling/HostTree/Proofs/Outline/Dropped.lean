/-
This file takes the settings that are left out of the configuration away from every node.
-/

import HostTree.Proofs.Outline.Place
import HostTree.Proofs.Setting.Dropped

namespace HostTree

/-- The entry is a setting that is left out. -/
def Entries.isDropped (entry : String × Value) : Bool :=
  Role.ofKey entry.1 = .setting && Keyword.isDropped entry.1

namespace Value

mutual

/-- A node loses the settings that are left out, and so do all nodes below it. -/
def pruned : Value → Value
  | mapping entries => mapping (prunedEntries entries)
  | other => other
termination_by structural node => node

def prunedEntries : List (String × Value) → List (String × Value)
  | [] => []
  | (key, content) :: rest =>
    if Entries.isDropped (key, content) then prunedEntries rest
    else if Role.ofKey key = .children then (key, prunedChildren content) :: prunedEntries rest
    else (key, content) :: prunedEntries rest
termination_by structural entries => entries

def prunedChildren : Value → Value
  | sequence items => sequence (prunedItems items)
  | other => other
termination_by structural content => content

def prunedItems : List Value → List Value
  | [] => []
  | item :: rest => item.pruned :: prunedItems rest
termination_by structural items => items

end

/-- All nodes of a document lose the settings that are left out. -/
def prunedDocument : Value → Value
  | sequence roots => sequence (prunedItems roots)
  | document => document.pruned

theorem prunedItems_eq_map (items : List Value) : prunedItems items = items.map pruned := by
  induction items with
  | nil => rfl
  | cons item rest ih => rw [prunedItems, ih, List.map_cons]

theorem prunedChildren_eq (content : Value) :
    content.prunedChildren = content.mapItems (List.map pruned) := by
  cases content with
  | sequence items => rw [prunedChildren, mapItems, prunedItems_eq_map]
  | _ => rfl

/-- Pruning does not change whether a value may be a child. -/
theorem alike_pruned (child : Value) : AlikeAsChild child child.pruned := by
  cases child with
  | mapping entries => exact .success trivial
  | _ => exact .refl _

/-- Pruning does not change whether the children can be read. -/
theorem readChildren_pruned (content : Value) :
    Corresponds (fun _ _ => True) (Declaration.readChildren content)
      (Declaration.readChildren content.prunedChildren) := by
  cases content with
  | sequence items =>
    rw [prunedChildren, prunedItems_eq_map]
    apply readChildren_alike
    apply List.forall₂_map_right_iff.mpr
    exact List.forall₂_same.mpr fun child _ => alike_pruned child
  | _ => exact .refl (fun _ => trivial) _

end Value

namespace Entries

/-- The contents change under every key for children. -/
def mapChildren (change : Value → Value) (entries : List (String × Value)) :
    List (String × Value) :=
  entries.map fun entry =>
    (entry.1, if Role.ofKey entry.1 = .children then change entry.2 else entry.2)

/-- The settings go first, and then the children are pruned. -/
theorem prunedEntries_eq (entries : List (String × Value)) :
    Value.prunedEntries entries =
      mapChildren Value.prunedChildren (entries.filter fun entry => !isDropped entry) := by
  induction entries with
  | nil => rfl
  | cons entry rest ih =>
    obtain ⟨key, content⟩ := entry
    rw [Value.prunedEntries, List.filter_cons]
    cases dropped : isDropped (key, content) with
    | true => exact ih
    | false =>
      rw [if_neg Bool.false_ne_true, Bool.not_false, if_pos rfl, ih, mapChildren, mapChildren,
        List.map_cons]
      dsimp only
      split <;> rfl

/-- The children of a pruned node are the pruned children. -/
theorem childItems_pruned (entries : List (String × Value)) :
    childItems (Value.prunedEntries entries) = (childItems entries).map Value.pruned := by
  induction entries with
  | nil => rfl
  | cons entry rest ih =>
    obtain ⟨key, content⟩ := entry
    rw [Value.prunedEntries]
    by_cases role : Role.ofKey key = .children
    · have stays : isDropped (key, content) = false := by simp [isDropped, role]
      rw [stays, if_neg Bool.false_ne_true, if_pos role, childItems_cons_of_children role,
        childItems_cons_of_children role, Value.prunedChildren_eq]
      exact Value.items_mapItems List.map_nil content
    · rw [if_neg role, childItems_cons_of_other role, ← ih]
      split
      · rfl
      · exact childItems_cons_of_other role

end Entries

namespace Declaration

/-- The settings that are left out are the only ones that a node loses with their entries. -/
theorem ofEntries_filter_dropped (entries : List (String × Value)) :
    ofEntries (entries.filter fun entry => !Entries.isDropped entry) =
      (ofEntries entries).map (adjust id Setting.pruned id) := by
  apply ofEntries_filter
  case pattern => exact fun declaration => rfl
  case kept =>
    intro entry _ stays added read declaration
    by_cases role : Role.ofKey entry.1 = .setting
    · have taken : Keyword.isDropped entry.1 = false := by
        simpa [Entries.isDropped, role] using stays
      unfold changeOf at read
      rw [role] at read
      cases read
      simp [adjust, Setting.pruned, Setting.isDropped, taken]
    · exact changeOf_unnoticed read (fun _ => rfl) (fun setting => absurd setting role)
        (fun _ => rfl) declaration
  case gone =>
    intro entry _ goes draft
    obtain ⟨role, dropped⟩ : Role.ofKey entry.1 = .setting ∧ Keyword.isDropped entry.1 := by
      simpa [Entries.isDropped] using goes
    rw [Draft.add_setting role]
    refine ⟨_, rfl, ?_⟩
    simp [Draft.revise, adjust, Setting.pruned, Setting.isDropped, dropped]
  case empty => rfl

/-- Nodes whose children can be read alike read alike, but for the children. -/
theorem ofEntries_mapChildren {change : Value → Value}
    (readable : ∀ content, Corresponds (fun _ _ => True) (readChildren content)
      (readChildren (change content))) (entries : List (String × Value)) :
    (ofEntries (Entries.mapChildren change entries)).map childless =
      (ofEntries entries).map childless := by
  apply childless_of_addAll
  rw [Entries.mapChildren, ← List.filterMap_eq_map]
  apply Draft.addAll_corresponds
  case start => rfl
  case step =>
    intro entry _ first second same
    apply Draft.add_childless same
    case readable =>
      intro role
      dsimp only
      rw [if_pos role]
      exact readable entry.2
    case unchanged => exact fun other => if_neg other

/-- A pruned node reads as the node does, but for the children and for the settings that are left
out. -/
theorem ofEntries_pruned (entries : List (String × Value)) :
    Corresponds
      (fun declaration other =>
        ∃ children, other = declaration.adjust id Setting.pruned fun _ => children)
      (ofEntries entries) (ofEntries (Value.prunedEntries entries)) := by
  apply corresponds_of_childless
  rw [← ofEntries_filter_dropped, Entries.prunedEntries_eq]
  exact ofEntries_mapChildren Value.readChildren_pruned _

end Declaration
end HostTree
