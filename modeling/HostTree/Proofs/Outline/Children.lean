/-
This file relates the children of an outline to the items of the node that it was read from.
-/

import HostTree.Compile
import HostTree.Proofs.Declaration.Parts

namespace HostTree

namespace Value

/-- Only a list has items. -/
def items : Value → List Value
  | sequence items => items
  | _ => []

/-- The other values have no items and stay as they are. -/
def mapItems (change : List Value → List Value) : Value → Value
  | sequence items => sequence (change items)
  | other => other

/-- A change of the items changes what a value has as items, be it a list or not. -/
theorem items_mapItems {change : List Value → List Value} (empty : change [] = [])
    (content : Value) : (content.mapItems change).items = change content.items := by
  cases content <;> simp [items, mapItems, empty]

theorem mapItems_mapItems (first second : List Value → List Value) (content : Value) :
    (content.mapItems first).mapItems second = content.mapItems (second ∘ first) := by
  cases content <;> rfl

end Value

namespace Entries

/-- These are the items under the first key for children. -/
def childItems : List (String × Value) → List Value
  | [] => []
  | entry :: rest =>
    if Role.ofKey entry.1 = .children then entry.2.items else childItems rest

section

variable {key : String} {content : Value} {rest : List (String × Value)}

/-- The first list of children is the one that counts. -/
theorem childItems_cons_of_children (role : Role.ofKey key = .children) :
    childItems ((key, content) :: rest) = content.items := by
  rw [childItems, if_pos role]

/-- An entry with another role has no children. -/
theorem childItems_cons_of_other (role : Role.ofKey key ≠ .children) :
    childItems ((key, content) :: rest) = childItems rest := by
  rw [childItems, if_neg role]

end

/-- The children are the items of the first entry for children. -/
theorem childItems_eq (entries : List (String × Value)) :
    childItems entries = (ofRole .children entries).head?.elim [] fun entry => entry.2.items := by
  induction entries with
  | nil => rfl
  | cons entry rest ih =>
    rw [childItems, ofRole_cons]
    split
    · rfl
    · exact ih

/-- The first key for children counts. -/
theorem childItems_append (before after : List (String × Value)) :
    childItems (before ++ after) =
      if (ofRole .children before).isEmpty then childItems after else childItems before := by
  induction before with
  | nil => rfl
  | cons entry rest ih =>
    rw [List.cons_append, childItems, childItems, ofRole_cons]
    split
    · rfl
    · exact ih

/-- Entries with other roles may come before the children. -/
theorem childItems_append_of_other {before : List (String × Value)}
    (roles : ∀ entry ∈ before, Role.ofKey entry.1 ≠ .children) (after : List (String × Value)) :
    childItems (before ++ after) = childItems after := by
  have absent : ofRole .children before = [] :=
    List.filter_eq_nil_iff.mpr fun entry among => by simpa using roles entry among
  rw [childItems_append, absent]
  rfl

/-- Each child stands in one of the entries. -/
theorem mem_childItems {entries : List (String × Value)} {item : Value}
    (among : item ∈ childItems entries) : ∃ entry ∈ entries, item ∈ entry.2.items := by
  induction entries with
  | nil => cases among
  | cons entry rest ih =>
    rw [childItems] at among
    split at among
    · exact ⟨entry, List.mem_cons_self, among⟩
    · obtain ⟨other, present, inside⟩ := ih among
      exact ⟨other, List.mem_cons_of_mem _ present, inside⟩

/-- The items change under the first key for children. -/
def mapChildItems (change : List Value → List Value) :
    List (String × Value) → List (String × Value)
  | [] => []
  | entry :: rest =>
    if Role.ofKey entry.1 = .children then (entry.1, entry.2.mapItems change) :: rest
    else entry :: mapChildItems change rest

section

variable {key : String} {content : Value} {rest : List (String × Value)}
  {change : List Value → List Value}

theorem mapChildItems_cons_of_children (role : Role.ofKey key = .children) :
    mapChildItems change ((key, content) :: rest) = (key, content.mapItems change) :: rest := by
  rw [mapChildItems, if_pos role]

theorem mapChildItems_cons_of_other (role : Role.ofKey key ≠ .children) :
    mapChildItems change ((key, content) :: rest) =
      (key, content) :: mapChildItems change rest := by
  rw [mapChildItems, if_neg role]

end

/-- A change of the children leaves the entries with other roles as they are. -/
theorem ofRole_mapChildItems {role : Role} (other : role ≠ .children)
    (change : List Value → List Value) (entries : List (String × Value)) :
    ofRole role (mapChildItems change entries) = ofRole role entries := by
  induction entries with
  | nil => rfl
  | cons entry rest ih =>
    obtain ⟨key, content⟩ := entry
    by_cases children : Role.ofKey key = .children
    · have skipped : Role.ofKey key ≠ role := by
        rw [children]
        exact other.symm
      rw [mapChildItems_cons_of_children children, ofRole_cons, ofRole_cons, if_neg skipped,
        if_neg skipped]
    · rw [mapChildItems_cons_of_other children, ofRole_cons, ofRole_cons, ih]

/-- The children of the changed node are the changed children. -/
theorem childItems_mapChildItems {change : List Value → List Value} (empty : change [] = [])
    (entries : List (String × Value)) :
    childItems (mapChildItems change entries) = change (childItems entries) := by
  induction entries with
  | nil => exact empty.symm
  | cons entry rest ih =>
    obtain ⟨key, content⟩ := entry
    by_cases role : Role.ofKey key = .children
    · rw [mapChildItems_cons_of_children role, childItems_cons_of_children role,
        childItems_cons_of_children role]
      exact Value.items_mapItems empty content
    · rw [mapChildItems_cons_of_other role, childItems_cons_of_other role,
        childItems_cons_of_other role]
      exact ih

/-- Two changes of the children are one change. -/
theorem mapChildItems_mapChildItems (first second : List Value → List Value)
    (entries : List (String × Value)) :
    mapChildItems second (mapChildItems first entries) =
      mapChildItems (second ∘ first) entries := by
  induction entries with
  | nil => rfl
  | cons entry rest ih =>
    obtain ⟨key, content⟩ := entry
    by_cases role : Role.ofKey key = .children
    · rw [mapChildItems_cons_of_children role, mapChildItems_cons_of_children role,
        mapChildItems_cons_of_children role, Value.mapItems_mapItems]
    · rw [mapChildItems_cons_of_other role, mapChildItems_cons_of_other role,
        mapChildItems_cons_of_other role, ih]

/-- A change of one child changes the child at its position. -/
theorem childItems_modify (position : Nat) (change : Value → Value)
    (entries : List (String × Value)) :
    childItems (mapChildItems (fun items => items.modify position change) entries) =
      (childItems entries).modify position change :=
  childItems_mapChildItems (List.modify_nil change position) entries

end Entries

namespace Outline

/-- The outlines of several nodes are read node by node. -/
theorem ofItems_eq_map (items : List Value) : ofItems items = items.map ofValue := by
  induction items with
  | nil => rfl
  | cons item rest ih => rw [ofItems, ih, List.map_cons]

theorem ofChildren_eq_map (content : Value) : ofChildren content = content.items.map ofValue := by
  cases content with
  | sequence items => exact ofItems_eq_map items
  | _ => rfl

/-- The outlines below a node are those of its children. -/
theorem ofChildrenEntry_eq_map (entries : List (String × Value)) :
    ofChildrenEntry entries = (Entries.childItems entries).map ofValue := by
  induction entries with
  | nil => rfl
  | cons entry rest ih =>
    obtain ⟨key, content⟩ := entry
    rw [ofChildrenEntry, Entries.childItems, ofChildren_eq_map, ih]
    split <;> rfl

/-- A node that can be read has its children below it. -/
theorem ofValue_of_success {entries : List (String × Value)} {declaration : Declaration}
    (read : Declaration.ofEntries entries = .ok declaration) :
    ofValue (.mapping entries) =
      node declaration ((Entries.childItems entries).map ofValue) := by
  rw [ofValue, read, ofChildrenEntry_eq_map]

/-- A node that cannot be read has nothing below it. -/
theorem ofValue_of_failure {entries : List (String × Value)} {failure : Failure}
    (read : Declaration.ofEntries entries = .error failure) :
    ofValue (.mapping entries) = invalid failure := by
  rw [ofValue, read]

/-- A node that can be read is a mapping, or it is a bare name without children. -/
theorem of_ofValue_eq_node {value : Value} {declaration : Declaration} {children : List Outline}
    (read : ofValue value = node declaration children) :
    (∃ entries, value = .mapping entries ∧ Declaration.ofEntries entries = .ok declaration ∧
      children = (Entries.childItems entries).map ofValue) ∨
    ∃ pattern, value = .string pattern ∧ declaration = .named pattern ∧ children = [] := by
  cases value with
  | mapping entries =>
    cases result : Declaration.ofEntries entries with
    | error failure =>
      rw [ofValue_of_failure result] at read
      cases read
    | ok found =>
      rw [ofValue_of_success result] at read
      cases read
      exact .inl ⟨entries, rfl, result, rfl⟩
  | string pattern =>
    cases read
    exact .inr ⟨pattern, rfl, rfl, rfl⟩
  | _ => cases read

end Outline
end HostTree
