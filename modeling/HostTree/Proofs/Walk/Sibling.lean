/-
This file shows that a parent which hands nothing down stands beside its children.
-/

import HostTree.Proofs.Declaration.Childless
import HostTree.Proofs.Declaration.Hiding
import HostTree.Proofs.Walk.Run

namespace HostTree

/-- A root without a loop that hands neither its name nor its settings down. -/
structure Declaration.Apart (declaration : Declaration) : Prop where
  single : declaration.loop = none
  alone : declaration.blockName "" none = .ok wildcard ∨
    declaration.namesChildren = false ∧ declaration.sharesSettings = false

namespace Declaration.Apart

variable {declaration : Declaration} {name : String}

theorem items (apart : declaration.Apart) : declaration.items = [none] := by
  rw [Declaration.items, apart.single]

theorem nameForChildren (apart : declaration.Apart)
    (named : declaration.blockName "" none = .ok name) :
    declaration.nameForChildren name = "" := by
  rw [Declaration.nameForChildren, if_neg]
  rintro ⟨ordinary, names⟩
  obtain star | ⟨silent, _⟩ := apart.alone
  · exact ordinary (Except.ok.inj (named.symm.trans star))
  · exact Bool.false_ne_true (silent.symm.trans names)

theorem settingsForChildren (apart : declaration.Apart)
    (named : declaration.blockName "" none = .ok name) (settings : List Setting) :
    declaration.settingsForChildren name settings = [] := by
  rw [Declaration.settingsForChildren, if_neg]
  rintro ⟨ordinary, shares⟩
  obtain star | ⟨_, keeps⟩ := apart.alone
  · exact ordinary (Except.ok.inj (named.symm.trans star))
  · exact Bool.false_ne_true (keeps.symm.trans shares)

end Declaration.Apart

namespace Outline

/-- The round of such a root is its round without children, and then the children on their own. -/
theorem iterate_apart {declaration : Declaration} (apart : declaration.Apart)
    (settings : List Setting) (children : List Outline) :
    iterate declaration settings "" children none = (do
      iterate declaration settings "" [] none
      compileAll "" [] children) := by
  unfold iterate
  cases named : declaration.blockName "" none with
  | error failure => rfl
  | ok name =>
    have lifted : (liftM (Except.ok name : Except Failure String) : Compilation String) =
        pure name := rfl
    simp only [lifted, pure_bind, bind_assoc, apart.nameForChildren named,
      apart.settingsForChildren named]
    cases declaration.hidden <;> simp [compileAll]

theorem compile_apart {declaration : Declaration} (apart : declaration.Apart)
    (ownChildren : List Child → List Child) (children : List Outline) :
    compile "" [] (node declaration children) = (do
      compile "" [] (node (declaration.adjust id id ownChildren) [])
      compileAll "" [] children) := by
  have once (round : Option Value → Compilation Unit) : [none].forM round = round none :=
    bind_pure_unit
  rw [compile_node, compile_node, Declaration.items_adjust, apart.items, once, once]
  exact iterate_apart apart _ children

end Outline

/-- Nodes and names can be read as children. -/
theorem Declaration.exists_readChildren {children : List Value}
    (nodes : ∀ child ∈ children,
      (∃ entries, child = .mapping entries) ∨ ∃ pattern, child = .string pattern) :
    ∃ found, readChildren (.sequence children) = .ok found := by
  rw [readChildren]
  induction children with
  | nil => exact ⟨[], rfl⟩
  | cons child rest ih =>
    obtain ⟨now, later⟩ := List.forall_mem_cons.mp nodes
    obtain ⟨others, readRest⟩ := ih later
    rw [List.mapM_cons, readRest]
    obtain ⟨entries, rfl⟩ | ⟨pattern, rfl⟩ := now
    · exact ⟨.node entries :: others, rfl⟩
    · exact ⟨.name pattern :: others, rfl⟩

/-- A parent that hands nothing down is an earlier sibling of its children. If a root has no loop,
and if it is the wildcard or hands neither its name nor its settings down, then it compiles as the
list of the root without its children and these children, whatever the nodes hold and whether they
fail or not. -/
theorem compile_eq_siblings {before after : List (String × Value)} {key : String}
    {children : List Value} (role : Role.ofKey key = .children)
    (only : ∀ entry ∈ before ++ after, Role.ofKey entry.1 ≠ .children)
    (nodes : ∀ child ∈ children,
      (∃ entries, child = .mapping entries) ∨ ∃ pattern, child = .string pattern)
    (apart : ∀ declaration,
      Declaration.ofEntries (before ++ (key, .sequence children) :: after) = .ok declaration →
        declaration.Apart) :
    compile (.mapping (before ++ (key, .sequence children) :: after)) =
      compile (.sequence (.mapping (before ++ after) :: children)) := by
  obtain ⟨found, readable⟩ := Declaration.exists_readChildren nodes
  obtain ⟨beforeRoles, afterRoles⟩ := List.forall_mem_append.mp only
  have reads := Declaration.ofEntries_without_children role readable beforeRoles afterRoles
  have below : Entries.childItems (before ++ (key, .sequence children) :: after) = children := by
    rw [Entries.childItems_append_of_other beforeRoles, Entries.childItems_cons_of_children role]
    rfl
  have nothing : Entries.childItems (before ++ after) = [] := by
    rw [← List.append_nil (before ++ after), Entries.childItems_append_of_other only]
    rfl
  apply compile_congr
  rw [Outline.ofDocument, Outline.ofDocument, Outline.ofItems, Outline.ofItems_eq_map,
    Outline.compileAll, Outline.compileAll]
  generalize read : Declaration.ofEntries
    (before ++ (key, .sequence children) :: after) = result at reads
  generalize other : Declaration.ofEntries (before ++ after) = changed at reads
  cases reads with
  | failure failure =>
    rw [Outline.ofValue_of_failure read, Outline.ofValue_of_failure other]
    rfl
  | @success declaration changed relation =>
    obtain ⟨ownChildren, rfl⟩ := relation
    rw [Outline.ofValue_of_success read, Outline.ofValue_of_success other, below, nothing,
      Outline.compile_apart (apart declaration read) (fun _ => ownChildren), bind_assoc]
    exact congrArg _ (funext fun _ => bind_pure_unit)

/-- The child of a hidden root without a prefix keeps its own name. -/
theorem compile_eq_siblings_prefix :
    compile (.mapping [("Host", .string "gate"), ("prefix", .boolean false),
      ("subhosts", .sequence [.mapping [("Host", .string "-a")], .string "-b"]),
      ("hide", .boolean true)]) =
    compile (.sequence [.mapping [("Host", .string "gate"), ("prefix", .boolean false),
      ("hide", .boolean true)], .mapping [("Host", .string "-a")], .string "-b"]) := by
  let before : List (String × Value) := [("Host", .string "gate"), ("prefix", .boolean false)]
  let after : List (String × Value) := [("hide", .boolean true)]
  let children : List Value := [.mapping [("Host", .string "-a")], .string "-b"]
  have only : ∀ entry ∈ before ++ after, Role.ofKey entry.1 ≠ .children := by
    simp [before, after, Role.ofKey_host, Role.ofKey_prefix, Role.ofKey_hide]
  have nodes : ∀ child ∈ children,
      (∃ entries, child = .mapping entries) ∨ ∃ pattern, child = .string pattern := by
    simp [children]
  have read : Declaration.ofEntries (before ++ ("subhosts", .sequence children) :: after) =
      .ok { pattern := some "gate", namesChildren := false, hidden := true,
            children := [.node [("Host", .string "-a")], .name "-b"] } := by
    rw [Declaration.ofEntries_eq_map]
    simp only [before, after, List.cons_append, List.nil_append, Declaration.Draft.addAll_cons,
      Declaration.Draft.add_pattern Role.ofKey_host, Declaration.Draft.add_naming Role.ofKey_prefix,
      Declaration.Draft.add_children Role.ofKey_subhosts,
      Declaration.Draft.add_hiding Role.ofKey_hide]
    rfl
  apply compile_eq_siblings Role.ofKey_subhosts only nodes
  intro declaration found
  cases Except.ok.inj (read.symm.trans found)
  exact ⟨rfl, .inr ⟨rfl, rfl⟩⟩

end HostTree
