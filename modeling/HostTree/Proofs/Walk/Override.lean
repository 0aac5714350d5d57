/-
This file shows which inherited lines the own settings of a child replace.
-/

import HostTree.Proofs.Outline.Children
import HostTree.Proofs.Setting.Layering
import HostTree.Proofs.Setting.Line
import HostTree.Proofs.Walk.Chain
import HostTree.Proofs.Walk.Outcome

namespace HostTree

namespace Setting

/-- Two settings with one keyword in their lines have one key, unless just one of them is a
shorthand. -/
theorem overrideKey_eq_of_lineKeyword {item : Option Value} {setting other : Setting}
    {line otherLine : String} (compiled : setting.line? item = some line)
    (otherCompiled : other.line? item = some otherLine)
    (same : lineKeyword otherLine = lineKeyword line) :
    setting.overrideKey = other.overrideKey ∨
      lineKeyword line = jumpKeyword ∧ setting.isShorthand ≠ other.isShorthand := by
  have keyword := lineKeyword_of_line? compiled
  have otherKeyword := lineKeyword_of_line? otherCompiled
  rw [same] at otherKeyword
  cases short : setting.isShorthand <;> cases otherShort : other.isShorthand
  · rw [short, if_neg Bool.false_ne_true] at keyword
    rw [otherShort, if_neg Bool.false_ne_true] at otherKeyword
    exact .inl (keyword.symm.trans otherKeyword)
  · exact .inr ⟨by rw [otherKeyword, if_pos otherShort], Bool.false_ne_true⟩
  · exact .inr ⟨by rw [keyword, if_pos short], Bool.false_ne_true.symm⟩
  · exact .inl (by rw [overrideKey_of_shorthand short, overrideKey_of_shorthand otherShort])

end Setting

/-- The lines of an iteration that its node inherits come from settings of the parent. None of them
has the keyword of an own line, except that a proxy command and the shorthand for one do not replace
each other. -/
theorem own_keyword_overrides {parent child : Iteration} (leads : parent.Leads child)
    (shares : parent.declaration.sharesSettings = true) (ordinary : parent.name ≠ .ok wildcard) :
    let own := child.declaration.settings
    let kept := Setting.kept parent.settings own
    (∀ emission, child.visit.effect.emission = some emission → emission.lines =
      .ofList (Setting.lines child.item kept ++ Setting.lines child.item own)) ∧
    ∀ setting ∈ own, ∀ line, setting.line? child.item = some line →
      ∀ other ∈ kept, ∀ otherLine, other.line? child.item = some otherLine →
        Setting.lineKeyword otherLine = Setting.lineKeyword line →
          Setting.lineKeyword line = Setting.jumpKeyword ∧
            setting.isShorthand ≠ other.isShorthand := by
  intro own kept
  obtain ⟨name, named, isOf⟩ := leads
  have settings : child.settings = kept ++ own := by
    have ordinaryName : name ≠ wildcard := by
      rintro rfl
      exact ordinary named
    rw [isOf.settings, Declaration.settingsForChildren, if_pos ⟨ordinaryName, shares⟩]
    exact Setting.overlay_eq_append _ _
  refine ⟨?_, ?_⟩
  · intro emission emitted
    have lines := (Visit.of_emission emitted).2
    rwa [settings, Setting.lines, List.filterMap_append] at lines
  · intro setting among line compiled other stays otherLine otherCompiled same
    have different := Setting.overrideKey_ne_of_mem_kept stays among
    exact (Setting.overrideKey_eq_of_lineKeyword compiled otherCompiled same).resolve_left different

/-- An own option replaces an inherited one under another name of its keyword. -/
theorem own_keyword_overrides_alias :
    ∃ parent child : Iteration, parent.Leads child ∧
      Setting.lines none parent.settings = ["TCPKeepAlive yes", "User root"] ∧
      ∃ emission, child.visit.effect.emission = some emission ∧
        emission.lines = .ofList ["User root", "TCPKeepAlive no"] := by
  let own : Declaration := { pattern := some "b", settings := [⟨"TCPKeepAlive", .boolean false⟩] }
  let root : Declaration :=
    { pattern := some "a", sharesSettings := true,
      settings := [⟨"keepalive", .boolean true⟩, ⟨"User", .string "root"⟩] }
  let parent : Iteration := ⟨[0], root, [.node own []], root.settings, "", none⟩
  let child : Iteration :=
    ⟨[0, 0], own, [], Setting.overlay root.settings own.settings, "a", none⟩
  have name : parent.name = .ok "a" := by decide +kernel
  have leads : parent.Leads child :=
    ⟨"a", name, ⟨⟨0, rfl, rfl⟩, rfl, rfl, List.mem_singleton.mpr rfl⟩⟩
  have ordinary : parent.name ≠ .ok wildcard := by decide +kernel
  obtain ⟨lines, _⟩ := own_keyword_overrides leads rfl ordinary
  have given : Setting.lines none parent.settings = ["TCPKeepAlive yes", "User root"] := by
    decide +kernel
  have left : Setting.lines child.item (Setting.kept parent.settings own.settings) ++
      Setting.lines child.item own.settings = ["User root", "TCPKeepAlive no"] := by
    decide +kernel
  have shown : child.visit.effect.emission.isSome := by decide +kernel
  obtain ⟨emission, emitted⟩ := Option.isSome_iff_exists.mp shown
  refine ⟨parent, child, leads, given, emission, emitted, ?_⟩
  rw [← left]
  exact lines emission emitted

/-- The proxy command of the child stands beside the jump host of its parent. -/
theorem own_command_beside_inherited_jump :
    ∃ document : Value, ∃ store : Store, ∃ parent child : Iteration,
      document = .mapping [("Host", .string "gate"), ("inherit", .boolean true),
        ("ViaProxy", .string "jump"), ("subhosts", .sequence [.mapping [("Host", .string "-a"),
          ("ProxyCommand", .string "nc %h %p")]])] ∧
      (compile document).1 = .ok store ∧ Chain document [] parent ∧ parent.Leads child ∧
      parent.declaration.sharesSettings = true ∧ parent.name ≠ .ok wildcard ∧
      child.name = .ok "gate-a" ∧
      Setting.lines child.item child.declaration.settings = ["ProxyCommand nc %h %p"] ∧
      Setting.lines child.item parent.settings = ["ProxyCommand ssh -W %h:%p jump"] ∧
      store.Holds "gate-a" "ProxyCommand nc %h %p" ∧
      store.Holds "gate-a" "ProxyCommand ssh -W %h:%p jump" := by
  let inner : List (String × Value) :=
    [("Host", .string "-a"), ("ProxyCommand", .string "nc %h %p")]
  let outer : List (String × Value) := [("Host", .string "gate"), ("inherit", .boolean true),
    ("ViaProxy", .string "jump"), ("subhosts", .sequence [.mapping inner])]
  let own : Declaration :=
    { pattern := some "-a", settings := [⟨"ProxyCommand", .string "nc %h %p"⟩] }
  let root : Declaration :=
    { pattern := some "gate", sharesSettings := true,
      settings := [⟨"ViaProxy", .string "jump"⟩], children := [.node inner] }
  have option : ∀ key ∈ ["ViaProxy", "ProxyCommand"], Role.ofKey key = .setting :=
    Role.ofKey_of_forall_notMem_reserved (by decide +kernel)
  have readInner : Declaration.ofEntries inner = .ok own := by
    rw [Declaration.ofEntries_eq_map]
    simp only [inner, Declaration.Draft.addAll_cons, Declaration.Draft.add_pattern Role.ofKey_host,
      Declaration.Draft.add_setting (option "ProxyCommand" (by simp))]
    rfl
  have readOuter : Declaration.ofEntries outer = .ok root := by
    rw [Declaration.ofEntries_eq_map]
    simp only [outer, Declaration.Draft.addAll_cons, Declaration.Draft.add_pattern Role.ofKey_host,
      Declaration.Draft.add_sharing Role.ofKey_inherit,
      Declaration.Draft.add_setting (option "ViaProxy" (by simp)),
      Declaration.Draft.add_children Role.ofKey_subhosts]
    rfl
  have innerChildren : Entries.childItems inner = [] := by
    simp [Entries.childItems, inner, Role.ofKey_host, option]
  have outerChildren : Entries.childItems outer = [.mapping inner] := by
    simp [Entries.childItems, outer, Role.ofKey_host, Role.ofKey_inherit, option,
      Role.ofKey_subhosts, Value.items]
  have outlines : Outline.ofDocument (.mapping outer) = [.node root [.node own []]] := by
    rw [Outline.ofDocument, Outline.ofValue_of_success readOuter, outerChildren, List.map_singleton,
      Outline.ofValue_of_success readInner, innerChildren]
    rfl
  have passed : (Visit.ofDocument (.mapping outer)).findSome?
      (fun visit => visit.effect.failure) = none := by
    rw [Visit.ofDocument, outlines]
    decide +kernel
  obtain ⟨store, compiled⟩ := Visit.exists_store passed
  let parent : Iteration := ⟨[0], root, [.node own []], root.settings, "", none⟩
  let child : Iteration :=
    ⟨[0, 0], own, [], Setting.overlay root.settings own.settings, "gate", none⟩
  have name : parent.name = .ok "gate" := by decide +kernel
  have childName : child.name = .ok "gate-a" := by decide +kernel
  have atParent : Chain (.mapping outer) [] parent :=
    .root ⟨⟨0, rfl, by rw [outlines]; rfl⟩, rfl, rfl, List.mem_singleton.mpr rfl⟩
  have leads : parent.Leads child :=
    ⟨"gate", name, ⟨⟨0, rfl, rfl⟩, rfl, rfl, List.mem_singleton.mpr rfl⟩⟩
  have emitted : child.visit.effect.emission = some ⟨"gate-a", .host,
      .ofList ["ProxyCommand ssh -W %h:%p jump", "ProxyCommand nc %h %p"]⟩ := by
    decide +kernel
  have holds (line : String)
      (present : line ∈ ["ProxyCommand ssh -W %h:%p jump", "ProxyCommand nc %h %p"]) :
      store.Holds "gate-a" line := by
    have visited := (atParent.child leads).visit_mem
    refine (Store.holds_iff compiled).mpr
      ⟨_, List.mem_filterMap.mpr ⟨_, visited, emitted⟩, rfl, ?_⟩
    simpa using present
  refine ⟨.mapping outer, store, parent, child, rfl, compiled, atParent, leads, rfl, ?_, childName,
    ?_, ?_, ?_, ?_⟩
  · decide +kernel
  · decide +kernel
  · decide +kernel
  · exact holds _ (by simp)
  · exact holds _ (by simp)

end HostTree
