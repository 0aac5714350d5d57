/-
This file shows that loops can be cut into shorter ones and that ranges are lists.
-/

import HostTree.Proofs.Declaration.Looping
import HostTree.Proofs.Loop.Writing
import HostTree.Proofs.Walk.Run

namespace HostTree

namespace Outline

/-- A node that loops over two lists does what two nodes do that loop over one of them each. -/
theorem compile_items_append (parentName : String) (inherited : List Setting)
    (declaration : Declaration) (children : List Outline) (first second : List Value) :
    compile parentName inherited
        (node (declaration.withLoop (some (.items (first ++ second)))) children) = (do
      compile parentName inherited (node (declaration.withLoop (some (.items first))) children)
      compile parentName inherited
        (node (declaration.withLoop (some (.items second))) children)) := by
  have items (values : List Value) :
      (declaration.withLoop (some (.items values))).items = values.map some := rfl
  rw [compile_node, compile_node, compile_node, items, items, items, List.map_append]
  exact List.forM_append

theorem compile_range (parentName : String) (inherited : List Setting)
    (declaration : Declaration) (children : List Outline) (range : Range) :
    compile parentName inherited (node (declaration.withLoop (some (.range range))) children) =
      compile parentName inherited
        (node (declaration.withLoop (some (.items (range.elements.map .integer)))) children) :=
  rfl

/-- This is a node with a loop, or the failure of the node without one. -/
theorem ofValue_setLoop {entries : List (String × Value)} (distinct : Entries.Distinct entries)
    {content : Value} {loop : Option Loop} (read : Loop.ofValue content = .ok loop) :
    ofValue (.mapping (Entries.setLoop content entries)) =
      match Declaration.ofEntries (Entries.setLoop .null entries) with
      | .ok declaration =>
        node (declaration.withLoop loop) ((Entries.childItems entries).map ofValue)
      | .error failure => invalid failure := by
  have reads := Declaration.ofEntries_setLoop distinct read
  cases bare : Declaration.ofEntries (Entries.setLoop .null entries) with
  | error failure =>
    rw [bare] at reads
    exact ofValue_of_failure reads
  | ok declaration =>
    rw [bare] at reads
    rw [ofValue_of_success reads, Entries.childItems_setLoop]

end Outline

/-- Loops can be cut, and ranges are lists. A root that loops over two lists of items compiles as
the root that loops over the first list followed by the root that loops over the second one, whether
it fails or not. A root that loops over a range compiles as the root that loops over the numbers
that are written for it. -/
theorem compile_cut_loop {entries : List (String × Value)}
    (distinct : Entries.Distinct entries) :
    (∀ first second : List Value,
      compile (.sequence [.mapping (Entries.setLoop (.sequence (first ++ second)) entries)]) =
        compile (.sequence [.mapping (Entries.setLoop (.sequence first) entries),
          .mapping (Entries.setLoop (.sequence second) entries)])) ∧
    ∀ content range, Loop.ofValue content = .ok (some (.range range)) →
      range.IsWritten content ∧ ∃ numbers, range.Lists numbers ∧
        compile (.sequence [.mapping (Entries.setLoop content entries)]) =
          compile (.sequence [.mapping
            (Entries.setLoop (.sequence (numbers.map .integer)) entries)]) := by
  constructor
  · intro first second
    apply compile_congr
    rw [Outline.ofDocument, Outline.ofDocument, Outline.ofItems_eq_map, Outline.ofItems_eq_map,
      List.map_singleton, List.map_cons, List.map_singleton,
      Outline.ofValue_setLoop distinct rfl, Outline.ofValue_setLoop distinct rfl,
      Outline.ofValue_setLoop distinct rfl]
    cases Declaration.ofEntries (Entries.setLoop .null entries) with
    | error failure => rfl
    | ok declaration =>
      dsimp only
      rw [Outline.compileAll, Outline.compileAll, Outline.compile_items_append, bind_assoc]
      rfl
  · intro content range read
    obtain ⟨written, moves⟩ := Loop.isWritten_of_ofValue read
    refine ⟨written, range.elements, Range.lists_elements moves, ?_⟩
    apply compile_congr
    rw [Outline.ofDocument, Outline.ofDocument, Outline.ofItems_eq_map, Outline.ofItems_eq_map,
      List.map_singleton, List.map_singleton, Outline.ofValue_setLoop distinct read,
      Outline.ofValue_setLoop distinct rfl]
    cases Declaration.ofEntries (Entries.setLoop .null entries) with
    | error failure => rfl
    | ok declaration =>
      dsimp only
      rw [Outline.compileAll, Outline.compile_range]
      rfl

/-- The root hands its settings down, and its child has the item of the root in its name. -/
theorem compile_cut_loop_inherit :
    compile (.sequence [.mapping [("Host", .string "e{item}"), ("inherit", .boolean true),
        ("User", .string "root"), ("subhosts", .sequence [.string "-a"]),
        ("with_items", .string "range(1, 6, 2)")]]) =
      compile (.sequence [
        .mapping [("Host", .string "e{item}"), ("inherit", .boolean true),
          ("User", .string "root"), ("subhosts", .sequence [.string "-a"]),
          ("with_items", .sequence [.integer 1])],
        .mapping [("Host", .string "e{item}"), ("inherit", .boolean true),
          ("User", .string "root"), ("subhosts", .sequence [.string "-a"]),
          ("with_items", .sequence [.integer 3, .integer 5])]]) := by
  let root : List (String × Value) :=
    [("Host", .string "e{item}"), ("inherit", .boolean true), ("User", .string "root"),
      ("subhosts", .sequence [.string "-a"])]
  have distinct : Entries.Distinct root := by simp [Entries.Distinct, root]
  have written (content : Value) : Entries.setLoop content root =
      root ++ [("with_items", content)] := by
    simp [Entries.setLoop, Entries.insert, root]
  have read : Loop.ofValue (.string "range(1, 6, 2)") = .ok (some (.range ⟨1, 6, 2⟩)) := by
    have expression : Range.ofExpression "range(1, 6, 2)" = .ok ⟨1, 6, 2⟩ := by decide +kernel
    rw [Loop.ofValue, expression]
    rfl
  obtain ⟨cut, lists⟩ := compile_cut_loop distinct
  obtain ⟨_, numbers, listed, ranged⟩ := lists _ _ read
  have same : numbers = [1, 3, 5] := listed.eq (Range.lists_elements (by decide))
  have halves := cut [.integer 1] [.integer 3, .integer 5]
  rw [same] at ranged
  rw [written, written] at ranged
  rw [written, written, written] at halves
  exact ranged.trans halves

end HostTree
