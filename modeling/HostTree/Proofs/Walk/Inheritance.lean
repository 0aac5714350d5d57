/-
This file writes out inherited settings at the children of a node.
-/

import HostTree.Proofs.Setting.Layering
import HostTree.Proofs.Walk.Agreement
import HostTree.Proofs.Walk.Run

namespace HostTree

/-- A bare name is written out as a host. -/
def Value.writtenOut : Value → Value
  | string pattern => mapping [("Host", string pattern)]
  | other => other

/-- The settings that a child inherits are written before its own. -/
def Value.inheriting (inherited : List Setting) (child : Value) : Value :=
  match child.writtenOut with
  | mapping entries => mapping (Entries.withSettings
    (Setting.overlay inherited (Setting.ofEntries entries)) entries)
  | other => other

/-- A node stops sharing its settings and gives each child a copy of them. -/
def Entries.sharedOut (entries : List (String × Value)) : List (String × Value) :=
  mapChildItems (List.map (Value.inheriting (Setting.ofEntries entries))) (without .sharing entries)

namespace Setting

theorem role_of_mem_ofEntries {entries : List (String × Value)} {setting : Setting}
    (among : setting ∈ ofEntries entries) : Role.ofKey setting.name = .setting := by
  obtain ⟨entry, _, found⟩ := List.mem_filterMap.mp among
  split at found
  case isTrue role =>
    cases found
    exact role
  case isFalse => cases found

/-- Inherited settings have the names of options, as own ones do. -/
theorem role_of_mem_overlay {inherited own : List Setting}
    (inheritedRoles : ∀ setting ∈ inherited, Role.ofKey setting.name = .setting)
    (ownRoles : ∀ setting ∈ own, Role.ofKey setting.name = .setting) {setting : Setting}
    (among : setting ∈ overlay inherited own) : Role.ofKey setting.name = .setting := by
  rw [overlay_eq_append] at among
  rcases List.mem_append.mp among with fromInherited | fromOwn
  · exact inheritedRoles setting (List.mem_filter.mp fromInherited).1
  · exact ownRoles setting fromOwn

end Setting

namespace Entries

/-- Leaving out another role keeps the children. -/
theorem childItems_without {role : Role} (other : role ≠ .children)
    (entries : List (String × Value)) : childItems (without role entries) = childItems entries := by
  rw [childItems_eq, childItems_eq, ofRole_without other]

/-- New settings keep the children. -/
theorem childItems_withSettings {settings : List Setting}
    (roles : ∀ setting ∈ settings, Role.ofKey setting.name = .setting)
    (entries : List (String × Value)) :
    childItems (withSettings settings entries) = childItems entries := by
  rw [childItems_eq, childItems_eq, ofRole_withSettings (by simp) roles]

/-- Each child gets the settings of the node. -/
theorem childItems_sharedOut (entries : List (String × Value)) :
    childItems (sharedOut entries) =
      (childItems entries).map (Value.inheriting (Setting.ofEntries entries)) := by
  rw [sharedOut, childItems_mapChildItems List.map_nil, childItems_without (by simp)]

end Entries

namespace Outline

/-- A bare name and the host that is written out for it are the same node. -/
theorem ofValue_writtenOut (child : Value) : ofValue child.writtenOut = ofValue child := by
  cases child with
  | string pattern =>
    have read : Declaration.ofEntries [("Host", .string pattern)] = .ok (.named pattern) := by
      rw [Declaration.ofEntries_eq_map, Declaration.Draft.addAll_cons,
        Declaration.Draft.add_pattern Role.ofKey_host]
      rfl
    have alone : Entries.childItems [("Host", .string pattern)] = [] := by
      rw [Entries.childItems, if_neg (by simp [Role.ofKey_host])]
      rfl
    rw [Value.writtenOut, ofValue_of_success read, alone]
    rfl
  | _ => rfl

/-- A node with its inherited settings written out does what the node does when it inherits them. -/
theorem effects_withSettings {inherited : List Setting}
    (roles : ∀ setting ∈ inherited, Role.ofKey setting.name = .setting) (place : List Nat)
    (parentName : String) (entries : List (String × Value)) :
    (visits place parentName [] (ofValue (.mapping (Entries.withSettings
      (Setting.overlay inherited (Setting.ofEntries entries)) entries)))).map Visit.effect =
      (visits place parentName inherited (ofValue (.mapping entries))).map Visit.effect := by
  have allRoles (setting : Setting)
      (among : setting ∈ Setting.overlay inherited (Setting.ofEntries entries)) :=
    Setting.role_of_mem_overlay roles (fun _ => Setting.role_of_mem_ofEntries) among
  have changed := Declaration.ofEntries_withSettings allRoles entries
  cases read : Declaration.ofEntries entries with
  | error failure =>
    rw [read] at changed
    rw [ofValue_of_failure read, ofValue_of_failure changed]
    rfl
  | ok declaration =>
    rw [read] at changed
    rw [ofValue_of_success read, ofValue_of_success changed,
      Entries.childItems_withSettings allRoles, visits_node, visits_node, List.map_flatMap,
      List.map_flatMap, Declaration.settings_of_ofEntries read]
    rfl

/-- A child with the settings written into it does what it does when it inherits them. -/
theorem effects_inheriting {inherited : List Setting}
    (roles : ∀ setting ∈ inherited, Role.ofKey setting.name = .setting) (place : List Nat)
    (parentName : String) (child : Value) :
    (visits place parentName [] (ofValue (child.inheriting inherited))).map Visit.effect =
      (visits place parentName inherited (ofValue child)).map Visit.effect := by
  cases child with
  | mapping entries => exact effects_withSettings roles place parentName entries
  | string pattern =>
    rw [← ofValue_writtenOut (.string pattern)]
    exact effects_withSettings roles place parentName [("Host", .string pattern)]
  | _ => rfl

/-- Children do the same with the inherited settings written out at each of them. -/
theorem effects_inheriting_all {inherited : List Setting}
    (roles : ∀ setting ∈ inherited, Role.ofKey setting.name = .setting) (place : List Nat)
    (position : Nat) (parentName : String) (children : List Value) :
    (visitsAll place position parentName []
      ((children.map (Value.inheriting inherited)).map ofValue)).map Visit.effect =
      (visitsAll place position parentName inherited (children.map ofValue)).map Visit.effect := by
  induction children generalizing position with
  | nil => rfl
  | cons child rest ih =>
    rw [List.map_cons, List.map_cons, List.map_cons, visitsAll, visitsAll, List.map_append,
      List.map_append, effects_inheriting roles, ih]

end Outline

namespace Value

theorem alike_inheriting (inherited : List Setting) (child : Value) :
    AlikeAsChild child (child.inheriting inherited) := by
  cases child with
  | mapping entries => exact .success trivial
  | string pattern => exact .success trivial
  | _ => exact .refl _

end Value

namespace Declaration

/-- A node that shares out its settings reads as one that does not share, but for the children. -/
theorem ofEntries_sharedOut {entries : List (String × Value)} (shares : Entries.Shares entries) :
    Corresponds
      (fun declaration other =>
        ∃ children, other = declaration.adjust (fun _ => false) id fun _ => children)
      (ofEntries entries) (ofEntries (Entries.sharedOut entries)) := by
  apply corresponds_of_childless
  rw [← ofEntries_without_sharing]
  · apply ofEntries_mapChildItems
    intro items
    apply Value.readChildren_alike
    apply List.forall₂_map_right_iff.mpr
    exact List.forall₂_same.mpr fun child _ => Value.alike_inheriting _ child
  · intro entry among role
    exact readLast_readable shares (List.mem_filter.mpr ⟨among, by simp [role]⟩)

end Declaration

namespace Visit

open Outline

variable {place : List Nat} {parentName : String}

/-- The visits of a node do the same after the node has shared out its settings, as long as its name
is not the wildcard. The node itself must not inherit anything. -/
theorem agree_sharedOut {entries : List (String × Value)} (shares : Entries.Shares entries) :
    Agree (fun visit => visit.place = place → visit.name? ≠ some wildcard)
      (visits place parentName [] (ofValue (.mapping entries)))
      (visits place parentName [] (ofValue (.mapping (Entries.sharedOut entries)))) := by
  have reads := Declaration.ofEntries_sharedOut shares
  generalize read : Declaration.ofEntries entries = result at reads
  generalize other : Declaration.ofEntries (Entries.sharedOut entries) = changed at reads
  cases reads with
  | failure failure =>
    rw [ofValue_of_failure read, ofValue_of_failure other]
    exact agree_of_effects rfl
  | @success declaration changed relation =>
    obtain ⟨ownChildren, rfl⟩ := relation
    have given {name : String} (ordinary : name ≠ wildcard) : declaration.settingsForChildren name
        (Setting.overlay [] declaration.settings) = Setting.ofEntries entries := by
      have sharing := (Declaration.sharesSettings_iff read).mpr shares
      rw [Declaration.settingsForChildren, if_pos ⟨ordinary, sharing⟩, Setting.overlay_nil,
        Declaration.settings_of_ofEntries read]
    have kept (name : String) (settings : List Setting) : (declaration.adjust (fun _ => false) id
        fun _ => ownChildren).settingsForChildren name settings = [] := by
      rw [Declaration.settingsForChildren, if_neg]
      rintro ⟨_, sharing⟩
      cases sharing
    rw [ofValue_of_success read, ofValue_of_success other, Entries.childItems_sharedOut,
      visits_node, visits_node]
    apply congruence_agree.flatMap
    intro item _
    apply agree_cons
    case same => rfl
    intro notWildcard
    rw [visitsBelow, visitsBelow, Declaration.blockName_adjust]
    cases named : declaration.blockName parentName item with
    | error failure => exact agree_of_effects rfl
    | ok name =>
      have ordinary : name ≠ wildcard := by
        rintro rfl
        exact notWildcard rfl (by simp [name?, named, Except.toOption])
      dsimp only
      rw [given ordinary, kept]
      apply agree_of_effects
      exact (effects_inheriting_all (fun _ => Setting.role_of_mem_ofEntries) _ _ _ _).symm

end Visit

/-- A node that shares its settings and inherits none may give each child a copy of them instead, as
long as its name is not the wildcard whenever it is visited. -/
theorem compile_changeAt_sharedOut {document : Value} {place : List Nat}
    {entries : List (String × Value)} (found : document.nodeAt? place = some (.mapping entries))
    (shares : Entries.Shares entries)
    (alone : ∀ parent, document.nodeAt? place.dropLast = some (.mapping parent) →
      ¬ Entries.Shares parent)
    (ordinary : ∀ visit ∈ Visit.performed (Visit.ofDocument document),
      visit.place = place → visit.name? ≠ some wildcard) :
    compile (document.changeAt Entries.sharedOut place) = compile document := by
  have agree : Visit.Agree (fun visit => visit.place = place → visit.name? ≠ some wildcard)
      (Visit.ofDocument document)
      (Visit.ofDocument (document.changeAt Entries.sharedOut place)) := by
    apply Visit.congruence_agree.changeAt found
    intro parentName settings inherits
    have nothing : settings = [] := by
      rcases inherits with none | ⟨parent, above, parentShares⟩
      · exact none
      · exact absurd parentShares (alone parent above)
    rw [nothing]
    exact Visit.agree_sharedOut shares
  exact (compile_eq_of_performed (agree ordinary)).symm

namespace Entries

/-- The node itself no longer shares its settings. -/
theorem not_shares_sharedOut (entries : List (String × Value)) : ¬ Shares (sharedOut entries) := by
  rw [Shares, sharedOut, ofRole_mapChildItems (by simp), ofRole_without_self]
  rintro ⟨⟩

/-- New settings do not decide whether a node shares its own. -/
theorem shares_withSettings {settings : List Setting}
    (roles : ∀ setting ∈ settings, Role.ofKey setting.name = .setting)
    (entries : List (String × Value)) :
    Shares (withSettings settings entries) ↔ Shares entries := by
  rw [Shares, Shares, ofRole_withSettings (by simp) roles]

end Entries

/-- Inheritance is copying. A node that shares its settings and inherits none may stop sharing and
give each child a copy of them instead, as long as its name is not the wildcard whenever it is
visited. The children share as before, so the step may go on with them. -/
theorem inheritance_is_copying {document : Value} {place : List Nat}
    {entries : List (String × Value)} (found : document.nodeAt? place = some (.mapping entries))
    (shares : Entries.Shares entries)
    (alone : ∀ parent, document.nodeAt? place.dropLast = some (.mapping parent) →
      ¬ Entries.Shares parent)
    (ordinary : ∀ visit ∈ Visit.performed (Visit.ofDocument document),
      visit.place = place → visit.name? ≠ some wildcard) :
    compile (document.changeAt Entries.sharedOut place) = compile document ∧
      (document.changeAt Entries.sharedOut place).nodeAt? place =
        some (.mapping (Entries.sharedOut entries)) ∧
      ¬ Entries.Shares (Entries.sharedOut entries) ∧
      ∀ position child, document.nodeAt? (place ++ [position]) = some (.mapping child) →
        ∃ copied, (document.changeAt Entries.sharedOut place).nodeAt? (place ++ [position]) =
          some (.mapping copied) ∧ (Entries.Shares copied ↔ Entries.Shares child) := by
  have changed : (document.changeAt Entries.sharedOut place).nodeAt? place =
      some (.mapping (Entries.sharedOut entries)) := Value.nodeAt?_changeAt found
  refine ⟨compile_changeAt_sharedOut found shares alone ordinary, changed,
    Entries.not_shares_sharedOut entries, ?_⟩
  intro position child reached
  rw [Value.nodeAt?_child found] at reached
  refine ⟨Entries.withSettings
    (Setting.overlay (Setting.ofEntries entries) (Setting.ofEntries child)) child, ?_, ?_⟩
  · rw [Value.nodeAt?_child changed, Entries.childItems_sharedOut, List.getElem?_map, reached]
    rfl
  · apply Entries.shares_withSettings
    intro setting among
    exact Setting.role_of_mem_overlay (fun _ => Setting.role_of_mem_ofEntries)
      (fun _ => Setting.role_of_mem_ofEntries) among

/-- A bare name below a node with a port becomes a node with this port. -/
theorem inheritance_is_copying_port :
    compile (.mapping [("Host", .string "a"), ("Port", .integer 22),
        ("subhosts", .sequence [.mapping [("Host", .string "b"), ("Port", .integer 22)]])]) =
      compile (.mapping [("Host", .string "a"), ("inherit", .boolean true), ("Port", .integer 22),
        ("subhosts", .sequence [.string "b"])]) := by
  let root : List (String × Value) :=
    [("Host", .string "a"), ("inherit", .boolean true), ("Port", .integer 22),
      ("subhosts", .sequence [.string "b"])]
  let declaration : Declaration :=
    { pattern := some "a", sharesSettings := true, settings := [⟨"Port", .integer 22⟩]
      children := [.name "b"] }
  have port : Role.ofKey "Port" = .setting := Role.ofKey_of_notMem_reserved (by decide +kernel)
  have sharing : Entries.Shares root := by
    simp [Entries.Shares, Entries.ofRole_cons, root, Role.ofKey_host, Role.ofKey_inherit, port,
      Role.ofKey_subhosts]
    rfl
  have read : Declaration.ofEntries root = .ok declaration := by
    rw [Declaration.ofEntries_eq_map]
    simp only [root, Declaration.Draft.addAll_cons, Declaration.Draft.add_pattern Role.ofKey_host,
      Declaration.Draft.add_sharing Role.ofKey_inherit, Declaration.Draft.add_setting port,
      Declaration.Draft.add_children Role.ofKey_subhosts]
    rfl
  have children : Entries.childItems root = [.string "b"] := by
    simp [Entries.childItems, root, Role.ofKey_host, Role.ofKey_inherit, port,
      Role.ofKey_subhosts, Value.items]
  have written : Entries.sharedOut root = [("Host", .string "a"), ("Port", .integer 22),
      ("subhosts", .sequence [.mapping [("Host", .string "b"), ("Port", .integer 22)]])] := by
    simp [Entries.sharedOut, Entries.without, Entries.mapChildItems, Value.mapItems, root,
      Role.ofKey_host, Role.ofKey_inherit, port, Role.ofKey_subhosts, Value.inheriting,
      Value.writtenOut, Entries.withSettings, Setting.ofEntries, Setting.overlay_nil_right]
  have visits : Visit.ofDocument (.mapping root) =
      [.iteration [0] declaration declaration.settings "" none,
        .iteration [0, 0] (.named "b") declaration.settings "a" none] := by
    rw [Visit.ofDocument, Outline.ofDocument, Outline.ofValue_of_success read, children]
    rfl
  have ordinary : ∀ visit ∈ Visit.performed (Visit.ofDocument (.mapping root)),
      visit.place = [0] → visit.name? ≠ some wildcard := by
    intro visit among place
    rw [visits] at among
    rcases List.mem_pair.mp (mem_of_mem_upTo among) with rfl | rfl
    · decide +kernel
    · cases place
  have found : (Value.mapping root).nodeAt? [0] = some (.mapping root) := rfl
  have alone : ∀ parent, (Value.mapping root).nodeAt? [] = some (.mapping parent) →
      ¬ Entries.Shares parent := by
    rintro parent ⟨⟩
  have copied := inheritance_is_copying found sharing alone ordinary
  rw [← written]
  exact copied.1

end HostTree
