/-
This file sets the loop of a node and shows what the node reads as then.
-/

import HostTree.Proofs.Declaration.Insertion

namespace HostTree

/-- The content for the loop is set, at its place if the node has one. -/
def Entries.setLoop (content : Value) (entries : List (String × Value)) :
    List (String × Value) :=
  insert "with_items" content entries

/-- The children do not depend on the loop. -/
theorem Entries.childItems_setLoop (content : Value) (entries : List (String × Value)) :
    childItems (setLoop content entries) = childItems entries :=
  childItems_insert (by simp [Role.ofKey_loop]) entries

namespace Declaration

/-- The loop takes the place of the one that the node has. -/
def withLoop (loop : Option Loop) (declaration : Declaration) : Declaration :=
  { declaration with loop := loop }

/-- An entry for a loop changes nothing but the loop. -/
theorem changeOf_loop {content : Value} {loop : Option Loop}
    (read : Loop.ofValue content = .ok loop) :
    changeOf "with_items" content = .ok (withLoop loop) := by
  rw [changeOf, Role.ofKey_loop, read]
  rfl

theorem forgets_loop : Forgets .looping (withLoop none) := by
  have read : changeOf "with_items" .null = .ok (withLoop none) := changeOf_loop rfl
  have forgets := forgets_of_changeOf read (by rw [Role.ofKey_loop]; rfl)
  rwa [Role.ofKey_loop] at forgets

/-- The loop that is set is the one that the node has. -/
theorem loop_of_setLoop {entries : List (String × Value)} (distinct : Entries.Distinct entries)
    {content : Value} {declaration : Declaration}
    (read : ofEntries (Entries.setLoop content entries) = .ok declaration) :
    Loop.ofValue content = .ok declaration.loop := by
  obtain ⟨childrenKey, parts⟩ := ofEntries_eq_ok_iff.mp read
  have last := parts.loop
  rw [Entries.setLoop,
    Entries.ofRole_insert_of_single Role.ofKey_loop rfl distinct, readLast_cons] at last
  obtain ⟨loop, found, same⟩ := Except.exists_of_bind_eq_ok last
  cases same
  exact found

/-- A node with a loop reads as the one without, but for the loop. -/
theorem ofEntries_setLoop {entries : List (String × Value)} (distinct : Entries.Distinct entries)
    {content : Value} {loop : Option Loop} (read : Loop.ofValue content = .ok loop) :
    ofEntries (Entries.setLoop content entries) =
      (ofEntries (Entries.setLoop .null entries)).map (withLoop loop) := by
  have alike : (ofEntries (Entries.setLoop content entries)).map (withLoop none) =
      (ofEntries (Entries.setLoop .null entries)).map (withLoop none) :=
    forgets_loop.ofEntries_insert Role.ofKey_loop (changeOf_loop rfl) (changeOf_loop read) entries
  have own := @loop_of_setLoop entries distinct content
  have same := Corresponds.of_map_eq alike
  generalize ofEntries (Entries.setLoop .null entries) = result at same ⊢
  generalize ofEntries (Entries.setLoop content entries) = other at same own ⊢
  cases same with
  | failure failure => rfl
  | @success declaration changed unlooped =>
    have looped : changed.loop = loop := Except.ok.inj ((own rfl).symm.trans read)
    have equal : changed = declaration.withLoop loop := by
      calc changed
          = (changed.withLoop none).withLoop loop := by rw [← looped]; rfl
        _ = declaration.withLoop loop := by rw [unlooped]; rfl
    exact congrArg Except.ok equal

end Declaration
end HostTree
