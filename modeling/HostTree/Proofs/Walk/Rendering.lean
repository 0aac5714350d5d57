/-
This file shows which rows the text of a compiled document has.
-/

import HostTree.Proofs.Declaration.Unbroken
import HostTree.Proofs.Setting.Layering
import HostTree.Proofs.Setting.Line
import HostTree.Proofs.Store.Row
import HostTree.Proofs.Template.Unbroken
import HostTree.Proofs.Walk.Chain
import HostTree.Proofs.Walk.Outcome

namespace HostTree

namespace Text

variable {text : String}

/-- A visible text has no line break. -/
theorem Visible.unbroken (visible : Visible text) : Unbroken text :=
  fun broken => absurd (visible '\n' broken) (by decide)

/-- A row that begins with a visible word is not indented. -/
theorem Visible.isHeaderRow_append (visible : Visible text) (present : text ≠ "")
    (rest : String) : isHeaderRow (text ++ rest).toList := by
  have blanks : blankCharacters.all fun character =>
      character.toNat ≤ 32 || 127 ≤ character.toNat := by
    decide
  have some : text.toList ≠ [] := fun empty => present (String.toList_eq_nil_iff.mp empty)
  obtain ⟨first, others, split⟩ := List.exists_cons_of_ne_nil some
  have ink := visible first (split ▸ List.mem_cons_self)
  rw [String.toList_append, split, List.cons_append, isHeaderRow, Bool.not_eq_true',
    isBlank, Bool.eq_false_iff]
  intro blank
  have outside := List.all_eq_true.mp blanks first (List.contains_iff_mem.mp blank)
  simp only [Bool.or_eq_true, decide_eq_true_eq] at outside
  omega

end Text

namespace Setting

variable {item : Option Value} {setting : Setting} {line : String}

/-- A line begins with a word, as its keyword is one. -/
theorem isHeaderRow_line (compiled : setting.line? item = some line) :
    Text.isHeaderRow line.toList := by
  obtain ⟨found, text, known, _, ⟨_, rfl⟩ | ⟨_, rfl⟩⟩ := line?_eq_some_iff.mp compiled
  · rw [String.append_assoc]
    exact (Keyword.visible_name known).isHeaderRow_append
      (Keyword.name_ne_empty found (Keyword.mem_table_of_find? known)) _
  · rw [String.append_assoc, String.append_assoc, String.append_assoc]
    exact visible_jumpKeyword.isHeaderRow_append (by decide) _

/-- A setting and an item without line breaks give a line without one. -/
theorem unbroken_line (content : setting.content.Unbroken)
    (unbroken : ∀ value ∈ item, value.Unbroken) (compiled : setting.line? item = some line) :
    Text.Unbroken line := by
  obtain ⟨found, text, known, resolved, ⟨_, rfl⟩ | ⟨_, rfl⟩⟩ := line?_eq_some_iff.mp compiled
  · have value := Template.unbroken_resolveValue content unbroken resolved
    rw [Text.unbroken_append, Text.unbroken_append]
    exact ⟨⟨(Keyword.visible_name known).unbroken, by decide⟩, value⟩
  · have value := Template.unbroken_resolveValue content unbroken resolved
    rw [Text.unbroken_append]
    exact ⟨by decide, value⟩

end Setting

/-- A node without line breaks has items without line breaks. -/
theorem Declaration.unbroken_item {declaration : Declaration} (unbroken : declaration.Unbroken)
    {item : Option Value} (turn : item ∈ declaration.items) : ∀ value ∈ item, value.Unbroken := by
  rw [items] at turn
  split at turn
  · cases List.mem_singleton.mp turn
    exact fun value none => absurd none (by simp)
  · next loop looping =>
    obtain ⟨element, among, rfl⟩ := List.mem_map.mp turn
    rintro value same
    cases same
    exact unbroken.loop loop looping _ among

namespace Iteration

/-- No line ends inside a text that the iteration or one below it writes. -/
structure Unbroken (iteration : Iteration) : Prop where
  declaration : iteration.declaration.Unbroken
  children : ∀ outline ∈ iteration.children, outline.Unbroken
  settings : ∀ setting ∈ iteration.settings, setting.content.Unbroken
  parentName : Text.Unbroken iteration.parentName
  item : ∀ value ∈ iteration.item, value.Unbroken

/-- An iteration has no line breaks if its node and what it is handed down have none. -/
theorem IsOf.unbroken {place : List Nat} {parentName : String} {inherited : List Setting}
    {outlines : List Outline} {iteration : Iteration}
    (isOf : iteration.IsOf place parentName inherited outlines)
    (nodes : ∀ outline ∈ outlines, outline.Unbroken) (prefixed : Text.Unbroken parentName)
    (shared : ∀ setting ∈ inherited, setting.content.Unbroken) : iteration.Unbroken := by
  obtain ⟨⟨position, _, found⟩, settings, parent, turn⟩ := isOf
  cases nodes _ (List.mem_of_getElem? found) with
  | node own below =>
    refine ⟨own, below, ?_, parent ▸ prefixed, Declaration.unbroken_item own turn⟩
    rw [settings, Setting.overlay_eq_append]
    intro setting among
    rcases List.mem_append.mp among with kept | added
    · exact shared setting (List.mem_filter.mp kept).1
    · exact own.settings setting added

/-- An iteration without line breaks has a name without one. -/
theorem unbroken_name {iteration : Iteration} (unbroken : iteration.Unbroken) {name : String}
    (named : iteration.name = .ok name) : Text.Unbroken name := by
  have star : Text.Unbroken wildcard := by decide
  unfold Iteration.name Declaration.blockName at named
  split at named
  · cases named
    exact star
  · next pattern declared =>
    split at named
    · cases named
      exact star
    · have both := Text.unbroken_append.mpr
        ⟨unbroken.parentName, unbroken.declaration.pattern pattern declared⟩
      exact Template.unbroken_resolve both unbroken.item named

end Iteration

/-- Line breaks come only from the document. -/
theorem Chain.unbroken {document : Value} (line : document.Unbroken) {above : List Iteration}
    {last : Iteration} (chain : Chain document above last) : last.Unbroken := by
  -- What a parent hands down is its own name and its settings, or nothing.
  apply chain.invariant
  · intro first isOf
    exact isOf.unbroken (Outline.unbroken_ofDocument line) (by decide)
      fun setting among => absurd among List.not_mem_nil
  · rintro parent child unbroken ⟨name, named, isOf⟩
    refine isOf.unbroken unbroken.children ?_ ?_
    · unfold Declaration.nameForChildren
      split
      · exact Iteration.unbroken_name unbroken named
      · decide
    · unfold Declaration.settingsForChildren
      split
      · exact unbroken.settings
      · exact fun setting among => absurd among List.not_mem_nil

/-- Each emission comes from the iteration at the end of a chain. -/
theorem Visit.exists_chain_of_emission {document : Value} {emission : Emission}
    (among : emission ∈ emissions (ofDocument document)) :
    ∃ above last, Chain document above last ∧ last.name = .ok emission.name ∧
      emission.lines = .ofList (Setting.lines last.item last.settings) := by
  obtain ⟨visit, present, emitted⟩ := List.mem_filterMap.mp among
  have ends := Visit.endsChain present
  cases visit with
  | unreadable place failure => cases emitted
  | iteration place declaration settings parentName item =>
    obtain ⟨above, children, chain⟩ := ends
    obtain ⟨name, lines⟩ := Visit.of_emission emitted
    exact ⟨above, _, chain, name, lines⟩

/-- The line comes from a setting that holds at the end of a chain. -/
def Value.Writes (document : Value) (line : String) : Prop :=
  ∃ above last, Chain document above last ∧
    ∃ setting ∈ last.settings, setting.line? last.item = some line

/-- Each line that is emitted comes from a setting of the document. -/
theorem Visit.writes_of_emission {document : Value} {emission : Emission}
    (among : emission ∈ emissions (ofDocument document)) {line : String}
    (present : line ∈ emission.lines) : document.Writes line := by
  obtain ⟨above, last, chain, _, lines⟩ := exists_chain_of_emission among
  rw [lines, Std.ExtTreeSet.mem_ofList, List.contains_iff_mem] at present
  exact ⟨above, last, chain, List.mem_filterMap.mp present⟩

namespace Store

variable {document : Value} {store : Store}

/-- A compiled store has no lines but those that the document writes. -/
theorem writes_of_compile (compiled : (compile document).1 = .ok store) {block : Block}
    (present : block ∈ store.blocks.toList) {line : String} (member : line ∈ block.lines) :
    document.Writes line := by
  obtain ⟨emission, among, _, inside⟩ :=
    (holds_iff compiled).mp ⟨block, present, rfl, member⟩
  exact Visit.writes_of_emission among inside

/-- Each line of the store begins with a word. -/
theorem worded_of_compile (compiled : (compile document).1 = .ok store) : store.Worded := by
  intro block present line member
  obtain ⟨above, last, _, setting, _, written⟩ := writes_of_compile compiled present member
  exact Setting.isHeaderRow_line written

/-- A document without line breaks gives a store without line breaks. -/
theorem unbroken_of_compile (compiled : (compile document).1 = .ok store)
    (line : document.Unbroken) : store.Unbroken := by
  intro block present
  constructor
  · have named : block.name ∈ store.names := List.mem_map_of_mem present
    obtain ⟨emission, among, same⟩ := (mem_names_iff compiled).mp named
    obtain ⟨above, last, chain, name, _⟩ := Visit.exists_chain_of_emission among
    rw [← same]
    exact Iteration.unbroken_name (chain.unbroken line) name
  · intro text member
    obtain ⟨above, last, chain, setting, among, written⟩ :=
      writes_of_compile compiled present member
    have unbroken := chain.unbroken line
    exact Setting.unbroken_line (unbroken.settings setting among) unbroken.item written

end Store

/-- The text has one header for each block and one entry for each line of a block, in order, and
otherwise only empty rows, if no line ends inside the names and lines of the blocks. No line ends
there if none ends inside the texts of the document. -/
theorem rows_of_compile {document : Value} {store : Store}
    (compiled : (compile document).1 = .ok store) :
    (document.Unbroken → store.Unbroken) ∧
    (store.Unbroken →
      ((Text.rows store.text).filter Text.isHeaderRow).map Text.trimEnd =
        store.blocks.toList.map (fun block => Text.trimEnd block.header.toList) ∧
      ((Text.rows store.text).filter Text.isEntryRow).map Text.trimEnd =
        store.blocks.toList.flatMap (fun block =>
          block.lines.toList.map fun line => Text.trimEnd ("  " ++ line).toList) ∧
      ∀ row ∈ Text.rows store.text, row = [] ∨ Text.isHeaderRow row ∨ Text.isEntryRow row) := by
  have worded := Store.worded_of_compile compiled
  refine ⟨Store.unbroken_of_compile compiled, fun unbroken => ⟨?_, ?_, ?_⟩⟩
  · exact Store.headers_text unbroken worded
  · exact Store.entries_text unbroken worded
  · exact fun row among => Store.kind_of_mem_rows_text unbroken worded among

/-- This is the outline of a host with a user. -/
theorem Outline.ofDocument_user (pattern user : String) :
    ofDocument (.mapping [("Host", .string pattern), ("User", .string user)]) =
      [.node { pattern := some pattern, settings := [⟨"User", .string user⟩] } []] := by
  have setting : Role.ofKey "User" = .setting := Role.ofKey_of_notMem_reserved (by decide +kernel)
  have read : Declaration.ofEntries [("Host", .string pattern), ("User", .string user)] =
      .ok { pattern := some pattern, settings := [⟨"User", .string user⟩] } := by
    rw [Declaration.ofEntries_eq_map]
    simp only [Declaration.Draft.addAll_cons, Declaration.Draft.add_pattern Role.ofKey_host,
      Declaration.Draft.add_setting setting]
    rfl
  have childless :
      Entries.childItems [("Host", .string pattern), ("User", .string user)] = [] := by
    simp [Entries.childItems, Role.ofKey_host, setting]
  rw [ofDocument, ofValue_of_success read, childless]
  rfl

/-- The blank at the end of the text is lost, and the rows are those of the block. -/
theorem rows_of_compile_user :
    ∃ store, (compile (.mapping [("Host", .string "a"), ("User", .string "root ")])).1 =
      .ok store ∧
      ((Text.rows store.text).filter Text.isHeaderRow).map Text.trimEnd = ["Host a".toList] ∧
      ((Text.rows store.text).filter Text.isEntryRow).map Text.trimEnd =
        ["  User root".toList] := by
  let document : Value := .mapping [("Host", .string "a"), ("User", .string "root ")]
  have passed : (Visit.ofDocument document).findSome? (fun visit => visit.effect.failure) =
      none := by
    rw [Visit.ofDocument, Outline.ofDocument_user]
    decide +kernel
  obtain ⟨store, compiled⟩ := Visit.exists_store passed
  have blocks : store.blocks.toList = [⟨"a", .host, .ofList ["User root "]⟩] := by
    rw [Store.blocks_of_compile compiled, Visit.ofDocument, Outline.ofDocument_user]
    decide +kernel
  have line : document.Unbroken := by
    refine .mapping (by decide) fun entry among => ?_
    rcases List.mem_pair.mp among with rfl | rfl <;> exact .string (by decide)
  obtain ⟨unbroken, rows⟩ := rows_of_compile compiled
  obtain ⟨headers, lines, _⟩ := rows (unbroken line)
  refine ⟨store, compiled, headers.trans ?_, lines.trans ?_⟩
  · rw [blocks]
    decide +kernel
  · rw [blocks]
    decide +kernel

/-- A line that ends inside an option value gives the text a header that no block has. -/
theorem header_without_block :
    ∃ store, (compile (.mapping [("Host", .string "a"),
      ("User", .string "root\nHost *")])).1 = .ok store ∧
      store.blocks.toList = [⟨"a", .host, .ofList ["User root\nHost *"]⟩] ∧
      Text.rows store.text =
        ["Host a".toList, "  User root".toList, "Host *".toList] ∧
      (Text.rows store.text).filter Text.isHeaderRow = ["Host a".toList, "Host *".toList] := by
  let document : Value := .mapping [("Host", .string "a"), ("User", .string "root\nHost *")]
  have passed : (Visit.ofDocument document).findSome? (fun visit => visit.effect.failure) =
      none := by
    rw [Visit.ofDocument, Outline.ofDocument_user]
    decide +kernel
  obtain ⟨store, compiled⟩ := Visit.exists_store passed
  have blocks : store.blocks.toList = [⟨"a", .host, .ofList ["User root\nHost *"]⟩] := by
    rw [Store.blocks_of_compile compiled, Visit.ofDocument, Outline.ofDocument_user]
    decide +kernel
  have rows : Text.rows store.text =
      ["Host a".toList, "  User root".toList, "Host *".toList] := by
    rw [Store.text, blocks]
    decide +kernel
  refine ⟨store, compiled, blocks, rows, ?_⟩
  rw [rows]
  decide +kernel

end HostTree
