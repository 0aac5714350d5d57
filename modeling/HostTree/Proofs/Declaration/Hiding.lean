/-
This file sets the flag for hiding of a node and shows what the node reads as then.
-/

import HostTree.Proofs.Declaration.Insertion

namespace HostTree

namespace Entries

/-- The flag for hiding is set, at its place if the node has one. -/
def setHidden (flag : Bool) (entries : List (String × Value)) : List (String × Value) :=
  insert "hide" (.boolean flag) entries

theorem childItems_setHidden (flag : Bool) (entries : List (String × Value)) :
    childItems (setHidden flag entries) = childItems entries :=
  childItems_insert (by simp [Role.ofKey_hide]) entries

end Entries

namespace Declaration

/-- Whether the node is hidden is forgotten. -/
def shown (declaration : Declaration) : Declaration :=
  { declaration with hidden := false }

theorem forgets_shown : Forgets .hiding shown := by
  have read : changeOf "hide" (.boolean false) = .ok shown := rfl
  exact forgets_of_changeOf read rfl

theorem hidden_of_setHidden {entries : List (String × Value)}
    (distinct : Entries.Distinct entries) {flag : Bool} {declaration : Declaration}
    (read : ofEntries (Entries.setHidden flag entries) = .ok declaration) :
    declaration.hidden = flag := by
  obtain ⟨childrenKey, parts⟩ := ofEntries_eq_ok_iff.mp read
  have last := parts.hidden
  rw [Entries.setHidden,
    Entries.ofRole_insert_of_single Role.ofKey_hide rfl distinct] at last
  exact (Except.ok.inj last).symm

/-- A node reads alike with either flag, and only the flag differs. -/
theorem ofEntries_setHidden {entries : List (String × Value)}
    (distinct : Entries.Distinct entries) :
    Corresponds (fun declaration other => declaration.hidden = false ∧
        other = { declaration with hidden := true })
      (ofEntries (Entries.setHidden false entries))
      (ofEntries (Entries.setHidden true entries)) := by
  have alike : (ofEntries (Entries.setHidden true entries)).map shown =
      (ofEntries (Entries.setHidden false entries)).map shown :=
    forgets_shown.ofEntries_insert Role.ofKey_hide rfl rfl entries
  have first := @hidden_of_setHidden entries distinct false
  have second := @hidden_of_setHidden entries distinct true
  have same := Corresponds.of_map_eq alike
  generalize ofEntries (Entries.setHidden false entries) = result at same first ⊢
  generalize ofEntries (Entries.setHidden true entries) = other at same second ⊢
  cases same with
  | failure failure => exact .failure failure
  | @success declaration changed unmarked =>
    refine .success ⟨first rfl, ?_⟩
    calc changed
        = { changed.shown with hidden := true } := by rw [← second rfl]; rfl
      _ = { declaration with hidden := true } := by rw [unmarked]; rfl

end Declaration
end HostTree
