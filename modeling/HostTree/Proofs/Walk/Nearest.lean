/-
This file shows that a node has the settings of the nearest node on its chain for each keyword.
-/

import HostTree.Proofs.Outline.Children
import HostTree.Proofs.Setting.Layering
import HostTree.Proofs.Walk.Chain
import Mathlib.Data.List.DropRight

namespace HostTree

namespace Iteration

/-- The children inherit the settings of the iteration. -/
def passesSettings (iteration : Iteration) : Bool :=
  iteration.declaration.sharesSettings ∧ iteration.name ≠ .ok wildcard

/-- These are the own settings of some iterations, one layer for each. -/
def layers (iterations : List Iteration) : List (List Setting) :=
  iterations.map fun iteration => iteration.declaration.settings

theorem survivors_layers_append (outer inner : List Iteration) :
    Setting.survivors (layers (outer ++ inner)) =
      Setting.overlay (Setting.survivors (layers outer)) (Setting.survivors (layers inner)) := by
  rw [layers, List.map_append, Setting.survivors_append, ← layers, ← layers]

theorem survivors_layers_singleton (iteration : Iteration) :
    Setting.survivors (layers [iteration]) = iteration.declaration.settings :=
  Setting.survivors_singleton _

theorem settingsForChildren_eq {iteration : Iteration} {name : String}
    (named : iteration.name = .ok name) (settings : List Setting) :
    iteration.declaration.settingsForChildren name settings =
      if iteration.passesSettings then settings else [] := by
  simp only [Declaration.settingsForChildren, passesSettings, named, decide_eq_true_eq, ne_eq,
    Except.ok.injEq, and_comm]

end Iteration

namespace Chain

open Iteration

variable {document : Value} {above outer line : List Iteration} {last : Iteration}

/-- A child adds one layer to those of the nodes above it, or begins with its own layer alone. -/
theorem settings_eq_survivors (chain : Chain document above last) :
    last.settings =
      Setting.survivors (layers (above.rtakeWhile passesSettings ++ [last])) := by
  rw [survivors_layers_append, survivors_layers_singleton]
  induction chain with
  | root isOf => exact isOf.settings
  | @child above parent child chain leads ih =>
    obtain ⟨name, named, isOf⟩ := leads
    rw [isOf.settings, settingsForChildren_eq named, List.rtakeWhile_concat]
    split
    · rw [ih, survivors_layers_append, survivors_layers_singleton]
    · rfl

/-- What comes from further out lies under the settings of the nodes that pass theirs on. -/
theorem settings_eq_overlay (chain : Chain document (outer ++ line) last)
    (passing : ∀ ancestor ∈ line, ancestor.passesSettings) :
    last.settings = Setting.overlay
      (Setting.survivors (layers (outer.rtakeWhile passesSettings)))
      (Setting.survivors (layers (line ++ [last]))) := by
  have whole : (outer ++ line).rtakeWhile passesSettings =
      outer.rtakeWhile passesSettings ++ line := by
    rw [List.rtakeWhile, List.reverse_append, List.takeWhile_append_of_pos, List.reverse_append,
      List.reverse_reverse, List.rtakeWhile]
    simpa using passing
  rw [chain.settings_eq_survivors, whole, List.append_assoc, survivors_layers_append]

end Chain

/-- Settings are laid over each other in any grouping, and no settings change nothing. So along
nodes that pass their settings on, the last one has of each key exactly the settings of the nearest
node that declares the key, in the order of that node. The settings of outer nodes come first, and
there are no others if the first node inherits none. -/
theorem nearest_declaration_wins :
    (∀ outer middle inner : List Setting, Setting.overlay (Setting.overlay outer middle) inner =
      Setting.overlay outer (Setting.overlay middle inner)) ∧
    (∀ settings : List Setting,
      Setting.overlay [] settings = settings ∧ Setting.overlay settings [] = settings) ∧
    ∀ {document : Value} {outer line : List Iteration} {last : Iteration},
      Chain document (outer ++ line) last → (∀ ancestor ∈ line, ancestor.passesSettings) →
      let layers := Iteration.layers (line ++ [last])
      (∀ key, layers.any (Setting.declares key) →
        Setting.withKey key last.settings = Setting.withKey key (Setting.nearest key layers)) ∧
      ((∀ parent, outer.getLast? = some parent → ¬ parent.passesSettings) →
        last.settings = Setting.survivors layers) := by
  refine ⟨fun _ _ _ => Setting.overlay_assoc,
    fun settings => ⟨Setting.overlay_nil settings, Setting.overlay_nil_right settings⟩, ?_⟩
  intro document outer line last chain passing layers
  have settings := chain.settings_eq_overlay passing
  refine ⟨?_, ?_⟩
  · intro key declared
    rw [settings, Setting.withKey_overlay, Setting.declares_survivors, Setting.declares_flatten,
      if_pos declared, Setting.withKey_survivors]
  · intro alone
    have nothing : outer.rtakeWhile Iteration.passesSettings = [] := by
      rw [List.rtakeWhile_eq_nil_iff]
      intro some
      exact alone _ (List.getLast?_eq_some_getLast some)
    rw [settings, nothing]
    exact Setting.overlay_nil _

/-- Two nodes pass their settings on. Below them one keyword comes from the first node, one from the
second under another name, and one from the last in two spellings. -/
theorem nearest_declaration_wins_spellings :
    ∃ document above last, Chain document above last ∧
      above.map (Setting.lines none ·.settings) =
        [["TCPKeepAlive yes", "User root", "Port 1"],
          ["User root", "Port 1", "TCPKeepAlive no"]] ∧
      Setting.lines none last.settings = ["Port 1", "TCPKeepAlive no", "User x", "User y"] := by
  let inner : List (String × Value) :=
    [("Host", .string "c"), ("user", .string "x"), ("USER", .string "y")]
  let middle : List (String × Value) := [("Host", .string "b"), ("inherit", .boolean true),
    ("KeepAlive", .boolean false), ("subhosts", .sequence [.mapping inner])]
  let outer : List (String × Value) := [("Host", .string "a"), ("inherit", .boolean true),
    ("TCPKeepAlive", .boolean true), ("User", .string "root"), ("Port", .integer 1),
    ("subhosts", .sequence [.mapping middle])]
  let innermost : Declaration :=
    { pattern := some "c", settings := [⟨"user", .string "x"⟩, ⟨"USER", .string "y"⟩] }
  let child : Declaration :=
    { pattern := some "b", sharesSettings := true, settings := [⟨"KeepAlive", .boolean false⟩]
      children := [.node inner] }
  let root : Declaration :=
    { pattern := some "a", sharesSettings := true,
      settings := [⟨"TCPKeepAlive", .boolean true⟩, ⟨"User", .string "root"⟩, ⟨"Port", .integer 1⟩]
      children := [.node middle] }
  have option : ∀ key ∈ ["KeepAlive", "TCPKeepAlive", "User", "user", "USER", "Port"],
      Role.ofKey key = .setting :=
    Role.ofKey_of_forall_notMem_reserved (by decide +kernel)
  have readInner : Declaration.ofEntries inner = .ok innermost := by
    rw [Declaration.ofEntries_eq_map]
    simp only [inner, Declaration.Draft.addAll_cons, Declaration.Draft.add_pattern Role.ofKey_host,
      Declaration.Draft.add_setting (option "user" (by simp)),
      Declaration.Draft.add_setting (option "USER" (by simp))]
    rfl
  have readMiddle : Declaration.ofEntries middle = .ok child := by
    rw [Declaration.ofEntries_eq_map]
    simp only [middle, Declaration.Draft.addAll_cons, Declaration.Draft.add_pattern Role.ofKey_host,
      Declaration.Draft.add_sharing Role.ofKey_inherit,
      Declaration.Draft.add_setting (option "KeepAlive" (by simp)),
      Declaration.Draft.add_children Role.ofKey_subhosts]
    rfl
  have readOuter : Declaration.ofEntries outer = .ok root := by
    rw [Declaration.ofEntries_eq_map]
    simp only [outer, Declaration.Draft.addAll_cons, Declaration.Draft.add_pattern Role.ofKey_host,
      Declaration.Draft.add_sharing Role.ofKey_inherit,
      Declaration.Draft.add_setting (option "TCPKeepAlive" (by simp)),
      Declaration.Draft.add_setting (option "User" (by simp)),
      Declaration.Draft.add_setting (option "Port" (by simp)),
      Declaration.Draft.add_children Role.ofKey_subhosts]
    rfl
  have innerChildren : Entries.childItems inner = [] := by
    simp [Entries.childItems, inner, Role.ofKey_host, option]
  have middleChildren : Entries.childItems middle = [.mapping inner] := by
    simp [Entries.childItems, middle, Role.ofKey_host, Role.ofKey_inherit, option,
      Role.ofKey_subhosts, Value.items]
  have outerChildren : Entries.childItems outer = [.mapping middle] := by
    simp [Entries.childItems, outer, Role.ofKey_host, Role.ofKey_inherit, option,
      Role.ofKey_subhosts, Value.items]
  have outlines : Outline.ofDocument (.mapping outer) =
      [.node root [.node child [.node innermost []]]] := by
    rw [Outline.ofDocument, Outline.ofValue_of_success readOuter, outerChildren, List.map_singleton,
      Outline.ofValue_of_success readMiddle, middleChildren, List.map_singleton,
      Outline.ofValue_of_success readInner, innerChildren, List.map_nil]
  let first : Iteration :=
    ⟨[0], root, [.node child [.node innermost []]], root.settings, "", none⟩
  let second : Iteration := ⟨[0, 0], child, [.node innermost []],
    Setting.overlay root.settings child.settings, "a", none⟩
  let third : Iteration := ⟨[0, 0, 0], innermost, [],
    Setting.overlay second.settings innermost.settings, "ab", none⟩
  have firstName : first.name = .ok "a" := by decide +kernel
  have secondName : second.name = .ok "ab" := by decide +kernel
  have atFirst : Chain (.mapping outer) [] first :=
    .root ⟨⟨0, rfl, by rw [outlines]; rfl⟩, rfl, rfl, List.mem_singleton.mpr rfl⟩
  have atSecond : Chain (.mapping outer) [first] second :=
    atFirst.child ⟨"a", firstName, ⟨⟨0, rfl, rfl⟩, rfl, rfl, List.mem_singleton.mpr rfl⟩⟩
  have shared : child.settingsForChildren "ab" second.settings = second.settings :=
    if_pos ⟨by decide, rfl⟩
  have settings : third.settings = Setting.overlay
      (child.settingsForChildren "ab" second.settings) innermost.settings := by
    rw [shared]
  have atThird : Chain (.mapping outer) ([] ++ [first, second]) third :=
    atSecond.child ⟨"ab", secondName, ⟨⟨0, rfl, rfl⟩, settings, rfl, List.mem_singleton.mpr rfl⟩⟩
  have passing : ∀ ancestor ∈ [first, second], ancestor.passesSettings := by
    intro ancestor among
    rcases List.mem_pair.mp among with rfl | rfl
    · simp [Iteration.passesSettings, firstName, wildcard, first, root]
    · simp [Iteration.passesSettings, secondName, wildcard, second, child]
  obtain ⟨_, _, along⟩ := nearest_declaration_wins
  have alone := (along atThird passing).2 (by simp)
  refine ⟨.mapping outer, [first, second], third, atThird, by decide +kernel, ?_⟩
  rw [alone]
  decide +kernel

end HostTree
