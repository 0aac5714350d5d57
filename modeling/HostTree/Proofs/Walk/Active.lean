/-
This file shows that only active keywords reach the configuration.
-/

import HostTree.Proofs.Walk.Rendering
import HostTree.Proofs.Walk.Session

namespace HostTree

namespace Store

variable {holds : String → Prop} {store : Store}

theorem AllLines.foldl_addTo {emissions : List Emission} (before : store.AllLines holds)
    (added : ∀ emission ∈ emissions, ∀ line ∈ emission.lines, holds line) :
    (emissions.foldl Emission.addTo store).AllLines holds := by
  induction emissions generalizing store with
  | nil => exact before
  | cons emission rest ih =>
    obtain ⟨now, later⟩ := List.forall_mem_cons.mp added
    refine ih (before.push ?_ emission.name emission.kind) later
    intro line among
    exact now line (Std.ExtTreeSet.mem_toList.mp among)

end Store

namespace Session

variable {holds : String → Prop} {session : Session}

/-- A document adds no lines but those that it writes, whether it fails or not. -/
theorem allLines_feed {document : Value} (before : session.store.AllLines holds)
    (written : ∀ line, document.Writes line → holds line) :
    (session.feed document).2.store.AllLines holds := by
  rw [feed_store]
  apply before.foldl_addTo
  intro emission among line present
  obtain ⟨visit, performed, emitted⟩ := List.mem_filterMap.mp among
  have visited : emission ∈ Visit.emissions (Visit.ofDocument document) :=
    List.mem_filterMap.mpr ⟨visit, mem_of_mem_upTo performed, emitted⟩
  exact written line (Visit.writes_of_emission visited present)

theorem allLines_feedAll {documents : List Value} (before : session.store.AllLines holds)
    (written : ∀ document ∈ documents, ∀ line, document.Writes line → holds line) :
    (session.feedAll documents).store.AllLines holds := by
  induction documents generalizing session with
  | nil => exact before
  | cons document rest ih =>
    obtain ⟨now, later⟩ := List.forall_mem_cons.mp written
    exact ih (allLines_feed before now) later

end Session

namespace Setting

/-- The keyword of the line stands in the table as it is written in the line, a text follows it, and
all its rows are active. -/
structure ActiveLine (line : String) : Prop where
  text : ∃ text, line = lineKeyword line ++ " " ++ text
  known : ∃ row ∈ Keyword.table.toList, row.name = lineKeyword line
  active : ∀ row ∈ Keyword.table.toList, row.name = lineKeyword line → row.standing = .active

theorem activeLine_append {row : Keyword} (among : row ∈ Keyword.table.toList)
    (active : row.standing = .active) (text : String) :
    ActiveLine (row.name ++ " " ++ text) := by
  have keyword : lineKeyword (row.name ++ " " ++ text) = row.name :=
    lineKeyword_append (Keyword.visible_of_mem among).2 text
  refine ⟨⟨text, by rw [keyword]⟩, ⟨row, among, keyword.symm⟩, ?_⟩
  intro other otherAmong same
  exact (Keyword.standing_eq_of_name among otherAmong (same.trans keyword)).trans active

theorem jumpKeyword_active : ∃ row ∈ Keyword.table.toList,
    row.name = jumpKeyword ∧ row.standing = .active := by
  decide +kernel

/-- No setting is turned into a line with a keyword that is dropped or that is a shorthand. -/
theorem activeLine_of_line? {setting : Setting} {item : Option Value} {line : String}
    (compiled : setting.line? item = some line) : ActiveLine line := by
  obtain ⟨found, text, known, _, ⟨active, rfl⟩ | ⟨_, rfl⟩⟩ := line?_eq_some_iff.mp compiled
  · exact activeLine_append (Keyword.mem_table_of_find? known) active text
  · obtain ⟨row, among, name, active⟩ := jumpKeyword_active
    have apart : jumpKeyword ++ " " ++ jumpCommand ++ " " ++ text =
        row.name ++ " " ++ (jumpCommand ++ " " ++ text) := by
      simp only [name, String.append_assoc]
    rw [apart]
    exact activeLine_append among active _

end Setting

/-- Only active keywords reach the configuration. After any documents, also failing ones, each line
of each block has an active keyword as the table writes it, and no row of the table with this name
is deprecated, ignored or a shorthand. The line comes from a setting of one of the documents, and
its keyword is the proxy command if the setting is a shorthand, and else the one that the name of
the setting stands for. -/
theorem active_keywords_only {documents : List Value} {block : Block}
    (present : block ∈ (({} : Session).feedAll documents).store.blocks.toList) {line : String}
    (member : line ∈ block.lines) :
    Setting.ActiveLine line ∧
    ∃ document ∈ documents, ∃ above last, Chain document above last ∧
      ∃ setting ∈ last.settings, setting.line? last.item = some line ∧
        Setting.lineKeyword line =
          if setting.isShorthand then Setting.jumpKeyword else setting.overrideKey := by
  have written : (({} : Session).feedAll documents).store.AllLines
      fun line => ∃ document ∈ documents, document.Writes line :=
    Session.allLines_feedAll Store.allLines_empty fun document among _ writes =>
      ⟨document, among, writes⟩
  obtain ⟨document, among, above, last, chain, setting, own, compiled⟩ :=
    written block present line member
  exact ⟨Setting.activeLine_of_line? compiled, document, among, above, last, chain, setting, own,
    compiled, Setting.lineKeyword_of_line? compiled⟩

/-- The root with a jump host comes before a root that is none, and its line stays. -/
theorem active_keywords_only_jump :
    let document : Value := .sequence
      [.mapping [("Host", .string "a"), ("viaproxy", .string "gw")], .null]
    (({} : Session).feed document).1.isOk = false ∧
    ∃ block ∈ (({} : Session).feedAll [document]).store.blocks.toList,
      "ProxyCommand ssh -W %h:%p gw" ∈ block.lines ∧
      Setting.ActiveLine "ProxyCommand ssh -W %h:%p gw" := by
  intro document
  let declaration : Declaration :=
    { pattern := some "a", settings := [⟨"viaproxy", .string "gw"⟩] }
  have jump : Role.ofKey "viaproxy" = .setting :=
    Role.ofKey_of_notMem_reserved (by decide +kernel)
  have read : Declaration.ofEntries [("Host", .string "a"), ("viaproxy", .string "gw")] =
      .ok declaration := by
    rw [Declaration.ofEntries_eq_map]
    simp only [Declaration.Draft.addAll_cons, Declaration.Draft.add_pattern Role.ofKey_host,
      Declaration.Draft.add_setting jump]
    rfl
  have childless :
      Entries.childItems [("Host", .string "a"), ("viaproxy", .string "gw")] = [] := by
    simp [Entries.childItems, Role.ofKey_host, jump]
  have outlines : Outline.ofDocument document = [.node declaration [], .ofValue .null] := by
    rw [Outline.ofDocument, Outline.ofItems_eq_map, List.map_cons, List.map_singleton,
      Outline.ofValue_of_success read, childless]
    rfl
  have emissions : Visit.emissions (Visit.performed (Visit.ofDocument document)) =
      [⟨"a", .host, .ofList ["ProxyCommand ssh -W %h:%p gw"]⟩] := by
    rw [Visit.ofDocument, outlines]
    decide +kernel
  have blocks : (({} : Session).feedAll [document]).store.blocks.toList =
      [⟨"a", .host, .ofList ["ProxyCommand ssh -W %h:%p gw"]⟩] := by
    rw [Session.feedAll_store, List.flatMap_singleton, emissions]
    exact (Emission.toList_foldl_addTo _).trans (by decide +kernel)
  have fails : (({} : Session).feed document).1.isOk = false := by
    rw [Session.feed_result, Visit.ofDocument, outlines]
    decide +kernel
  have present : ⟨"a", .host, .ofList ["ProxyCommand ssh -W %h:%p gw"]⟩ ∈
      (({} : Session).feedAll [document]).store.blocks.toList :=
    blocks ▸ List.mem_singleton.mpr rfl
  have member : "ProxyCommand ssh -W %h:%p gw" ∈
      (Std.ExtTreeSet.ofList ["ProxyCommand ssh -W %h:%p gw"] : LineSet) := by
    simp
  exact ⟨fails, _, present, member, (active_keywords_only present member).1⟩

end HostTree
