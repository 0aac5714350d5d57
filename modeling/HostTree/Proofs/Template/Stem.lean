/-
This file shows that a text without braces stands before a template as it is.
-/

import HostTree.Proofs.Template.Escaping

namespace HostTree.Template

/-- A text without braces is escaped as it is. -/
theorem escape_of_plain {stem : List Char} (plain : Plain stem) : escape stem = stem := by
  induction stem with
  | nil => rfl
  | cons character rest ih =>
    obtain ⟨⟨left, right⟩, plainRest⟩ := List.forall_mem_cons.mp plain
    rw [escape_cons, escape_singleton_of_plain left right, ih plainRest, List.singleton_append]

theorem escaped_of_plain {stem : String} (plain : Plain stem.toList) : escaped stem = stem := by
  rw [escaped, escape_of_plain plain, String.ofList_toList]

/-- A plain stem stays before the text of the template, and it changes nothing about whether the
template has one. -/
theorem resolve_append_eq_ok_iff {stem : String} (plain : Plain stem.toList) {template : String}
    {item : Option Value} {name : String} :
    resolve (stem ++ template) item = .ok name ↔
      ∃ text, resolve template item = .ok text ∧ name = stem ++ text := by
  cases item with
  | none => simp [resolve, eq_comm]
  | some item =>
    have literal := withoutPlaceholder_escaped stem
    have own := resolve_escaped stem item
    rw [escaped_of_plain plain] at literal own
    rw [resolve_append_of_balanced_eq_ok_iff literal.balanced (.inr literal), own]
    simp

end HostTree.Template
