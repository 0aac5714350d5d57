/-
This file relates the rows of a written store to its blocks.
-/

import HostTree.Proofs.Text.Row
import HostTree.Store

namespace HostTree

namespace Block

/-- The lines of a block stand below its header and are indented. -/
def rows (block : Block) : List String :=
  block.header :: block.lines.toList.map ("  " ++ ·)

/-- The header of a block is not indented. -/
theorem isHeaderRow_header (block : Block) : Text.isHeaderRow block.header.toList := by
  rw [header, String.toList_append, String.toList_append]
  cases block.kind <;> simp [BlockKind.word, Text.isHeaderRow] <;> decide

/-- A line that begins with a word is indented by two blanks. -/
theorem isEntryRow_indented {line : String} (word : Text.isHeaderRow line.toList) :
    Text.isEntryRow ("  " ++ line).toList := by
  refine Text.isEntryRow_iff.mpr ⟨line.toList, ?_, word⟩
  rw [String.toList_append]
  rfl

/-- The header is the only row of a block that is not indented. -/
theorem filter_header {block : Block}
    (worded : ∀ line ∈ block.lines, Text.isHeaderRow line.toList) :
    (block.rows.map String.toList).filter Text.isHeaderRow = [block.header.toList] := by
  rw [rows, List.map_cons, List.filter_cons_of_pos block.isHeaderRow_header,
    List.filter_eq_nil_iff.mpr]
  intro row among
  obtain ⟨entry, inside, rfl⟩ := List.mem_map.mp among
  obtain ⟨line, member, rfl⟩ := List.mem_map.mp inside
  have word := worded line (Std.ExtTreeSet.mem_toList.mp member)
  rw [Text.isHeaderRow_of_isEntryRow (isEntryRow_indented word)]
  exact Bool.false_ne_true

/-- The other rows of a block are its lines. -/
theorem filter_entries {block : Block}
    (worded : ∀ line ∈ block.lines, Text.isHeaderRow line.toList) :
    (block.rows.map String.toList).filter Text.isEntryRow =
      block.lines.toList.map fun line => ("  " ++ line).toList := by
  have header : ¬ Text.isEntryRow block.header.toList := by
    intro entry
    have both := Text.isHeaderRow_of_isEntryRow entry
    rw [block.isHeaderRow_header] at both
    cases both
  rw [rows, List.map_cons, List.filter_cons_of_neg header, List.map_map, List.filter_eq_self.mpr]
  · rfl
  · intro row among
    obtain ⟨line, member, rfl⟩ := List.mem_map.mp among
    exact isEntryRow_indented (worded line (Std.ExtTreeSet.mem_toList.mp member))

end Block

namespace Store

/-- No line ends inside the parts of a store. -/
def Unbroken (store : Store) : Prop :=
  ∀ block ∈ store.blocks.toList,
    Text.Unbroken block.name ∧ ∀ line ∈ block.lines, Text.Unbroken line

/-- The lines of a store begin with words. -/
def Worded (store : Store) : Prop :=
  ∀ block ∈ store.blocks.toList, ∀ line ∈ block.lines, Text.isHeaderRow line.toList

/-- No line of a store is blank. -/
def Inked (store : Store) : Prop :=
  ∀ block ∈ store.blocks.toList, ∀ line ∈ block.lines, Text.trimEnd line.toList ≠ []

theorem Worded.inked {store : Store} (worded : store.Worded) : store.Inked :=
  fun block present line member => Text.trimEnd_ne_nil (worded block present line member)

/-- These are the rows before the text is trimmed. -/
def rows (store : Store) : List String :=
  [""].intercalate (store.blocks.toList.map Block.rows)

/-- An empty row between two groups of rows separates them. -/
theorem intercalate_groups {groups : List (List String)} (present : ∀ group ∈ groups, group ≠ []) :
    "\n\n".intercalate (groups.map ("\n".intercalate ·)) =
      "\n".intercalate ([""].intercalate groups) := by
  induction groups with
  | nil => rfl
  | cons first rest ih =>
    obtain ⟨firstPresent, restPresent⟩ := List.forall_mem_cons.mp present
    cases rest with
    | nil => simp
    | cons second others =>
      have left : [""].intercalate (second :: others) ≠ [] := by
        obtain ⟨row, more, rfl⟩ :=
          List.exists_cons_of_ne_nil (restPresent second List.mem_cons_self)
        simp
      have twice : "\n\n" = "\n" ++ "\n" := rfl
      rw [List.map_cons, String.intercalate_cons_of_ne_nil (by simp), ih restPresent,
        List.intercalate_cons_cons, List.append_assoc,
        String.intercalate_append_of_ne_nil firstPresent (by simp),
        String.intercalate_append_of_ne_nil (by simp) left, String.intercalate_singleton,
        String.empty_append, twice]
      simp only [String.append_assoc]

/-- The text is its rows without the blanks around them. -/
theorem text_eq (store : Store) : store.text = Text.trim ("\n".intercalate store.rows) := by
  rw [text, rows, ← intercalate_groups, List.map_map]
  · rfl
  · intro group among
    obtain ⟨block, _, rfl⟩ := List.mem_map.mp among
    simp [Block.rows]

/-- A test that refuses the empty row can be made block by block. -/
theorem filter_rows {test : String → Bool} (skips : test "" = false) (store : Store) :
    store.rows.filter test = store.blocks.toList.flatMap fun block => block.rows.filter test := by
  rw [rows]
  generalize store.blocks.toList = blocks
  induction blocks with
  | nil => rfl
  | cons first rest ih =>
    cases rest with
    | nil => simp
    | cons second others =>
      rw [List.map_cons, List.map_cons, List.intercalate_cons_cons, ← List.map_cons,
        List.filter_append, List.filter_append, ih]
      simp [skips]

/-- A row separates two blocks or belongs to one of them. -/
theorem mem_rows {store : Store} {row : String} (among : row ∈ store.rows) :
    row = "" ∨ ∃ block ∈ store.blocks.toList, row ∈ block.rows := by
  by_cases empty : row = ""
  · exact .inl empty
  · have found : row ∈ store.rows.filter (· ≠ "") :=
      List.mem_filter.mpr ⟨among, decide_eq_true empty⟩
    rw [filter_rows (by simp)] at found
    obtain ⟨block, present, inside⟩ := List.mem_flatMap.mp found
    exact .inr ⟨block, present, (List.mem_filter.mp inside).1⟩

variable {store : Store}

/-- If the store has no line breaks, then no row has one. -/
theorem unbroken_row (unbroken : store.Unbroken) {row : String} (among : row ∈ store.rows) :
    Text.Unbroken row := by
  rcases mem_rows among with rfl | ⟨block, present, inside⟩
  · simp [Text.Unbroken]
  · obtain ⟨name, lines⟩ := unbroken block present
    rcases List.mem_cons.mp inside with rfl | entry
    · have word : '\n' ∉ block.kind.word.toList := by cases block.kind <;> decide
      simpa [Text.Unbroken, Block.header, word] using name
    · obtain ⟨line, member, rfl⟩ := List.mem_map.mp entry
      simpa [Text.Unbroken] using lines line (Std.ExtTreeSet.mem_toList.mp member)

/-- Each row of a block is a header or an entry. -/
theorem row_kind (worded : store.Worded) {block : Block} (present : block ∈ store.blocks.toList)
    {row : String} (inside : row ∈ block.rows) :
    Text.isHeaderRow row.toList ∨ Text.isEntryRow row.toList := by
  rcases List.mem_cons.mp inside with rfl | entry
  · exact .inl block.isHeaderRow_header
  · obtain ⟨line, member, rfl⟩ := List.mem_map.mp entry
    have word := worded block present line (Std.ExtTreeSet.mem_toList.mp member)
    exact .inr (Block.isEntryRow_indented word)

/-- The last row belongs to a block. -/
theorem exists_last_row (present : store.blocks.toList ≠ []) :
    ∃ front last, store.rows = front ++ [last] ∧
      ∃ block ∈ store.blocks.toList, last ∈ block.rows := by
  obtain ⟨others, final, split⟩ := (List.eq_nil_or_concat' _).resolve_left present
  have some : final.rows ≠ [] := List.cons_ne_nil _ _
  refine ⟨(others.map Block.rows).flatMap (· ++ [""]) ++ final.rows.dropLast,
    final.rows.getLast some, ?_, final, by simp [split], List.getLast_mem some⟩
  rw [rows, split, List.map_append, List.map_singleton, Text.intercalate_concat,
    List.append_assoc, List.dropLast_append_getLast some]

/-- The text begins with a header, so nothing is trimmed from its beginning. -/
theorem isHeaderRow_text (present : store.blocks.toList ≠ []) :
    Text.isHeaderRow ("\n".intercalate store.rows).toList := by
  obtain ⟨first, rest, split⟩ := List.exists_cons_of_ne_nil present
  rw [rows, split, List.map_cons, Block.rows, List.intercalate_cons_cons_left,
    String.toList_intercalate, List.map_cons]
  exact Text.isHeaderRow_intercalate first.isHeaderRow_header _ _

/-- The text of an empty store is one empty row. -/
theorem rows_text_of_empty (empty : store.blocks.toList = []) : Text.rows store.text = [[]] := by
  rw [text_eq, rows, empty]
  decide

/-- A row of a block is not blank. -/
theorem trimEnd_row_ne_nil (inked : store.Inked) {block : Block}
    (present : block ∈ store.blocks.toList) {row : String} (inside : row ∈ block.rows) :
    Text.trimEnd row.toList ≠ [] := by
  rcases List.mem_cons.mp inside with rfl | entry
  · exact Text.trimEnd_ne_nil block.isHeaderRow_header
  · obtain ⟨line, member, rfl⟩ := List.mem_map.mp entry
    have ink := inked block present line (Std.ExtTreeSet.mem_toList.mp member)
    rw [String.toList_append, Text.trimEnd_append ink]
    exact List.append_ne_nil_of_right_ne_nil _ ink

/-- The rows of the text are the rows before the trimming, except that the last one has lost the
blanks at its end. -/
theorem rows_text (unbroken : store.Unbroken) (inked : store.Inked)
    (present : store.blocks.toList ≠ []) :
    ∃ front last, store.rows.map String.toList = front ++ [last] ∧
      Text.rows store.text = front ++ [Text.trimEnd last] := by
  obtain ⟨front, last, split, block, among, inside⟩ := exists_last_row present
  have ends : Text.trimEnd last.toList ≠ [] := trimEnd_row_ne_nil inked among inside
  have joined : ("\n".intercalate store.rows).toList =
      ['\n'].intercalate (front.map String.toList ++ [last.toList]) := by
    rw [String.toList_intercalate, split, List.map_append]
    rfl
  have starts := isHeaderRow_text present
  rw [joined] at starts
  refine ⟨front.map String.toList, last.toList, by simp [split], ?_⟩
  rw [text_eq, ← String.ofList_toList (s := "\n".intercalate store.rows), joined]
  refine Text.rows_trim ?_ starts ends
  intro row found
  have found : row ∈ store.rows.map String.toList := by simpa [split] using found
  obtain ⟨text, member, rfl⟩ := List.mem_map.mp found
  exact unbroken_row unbroken member

/-- A test that takes no account of the blanks at the end of a row finds the rows of the blocks. -/
theorem filter_rows_text (unbroken : store.Unbroken) (worded : store.Worded)
    {test : List Char → Bool} (skips : test [] = false)
    (same : ∀ row, test (Text.trimEnd row) = test row) :
    ((Text.rows store.text).filter test).map Text.trimEnd =
      store.blocks.toList.flatMap fun block =>
        ((block.rows.map String.toList).filter test).map Text.trimEnd := by
  by_cases present : store.blocks.toList = []
  · rw [rows_text_of_empty present, present, List.filter_cons_of_neg (by simp [skips])]
    rfl
  · obtain ⟨front, last, split, trimmed⟩ := rows_text unbroken worded.inked present
    rw [trimmed, Text.filter_trimEnd same, ← split, List.filter_map,
      filter_rows (by simpa using skips), List.map_flatMap, List.map_flatMap]
    simp only [List.filter_map]

/-- The headers in the text are those of the blocks, in their order. -/
theorem headers_text (unbroken : store.Unbroken) (worded : store.Worded) :
    ((Text.rows store.text).filter Text.isHeaderRow).map Text.trimEnd =
      store.blocks.toList.map fun block => Text.trimEnd block.header.toList := by
  rw [filter_rows_text unbroken worded rfl Text.isHeaderRow_trimEnd, List.map_eq_flatMap]
  refine List.flatMap_congr fun block present => ?_
  rw [Block.filter_header (worded block present), List.map_singleton]

/-- The entries in the text are the lines of the blocks, in their order. -/
theorem entries_text (unbroken : store.Unbroken) (worded : store.Worded) :
    ((Text.rows store.text).filter Text.isEntryRow).map Text.trimEnd =
      store.blocks.toList.flatMap fun block =>
        block.lines.toList.map fun line => Text.trimEnd ("  " ++ line).toList := by
  rw [filter_rows_text unbroken worded rfl Text.isEntryRow_trimEnd]
  refine List.flatMap_congr fun block present => ?_
  rw [Block.filter_entries (worded block present), List.map_map]
  rfl

/-- Only the empty rows between the blocks are neither headers nor entries. -/
theorem kind_of_mem_rows_text (unbroken : store.Unbroken) (worded : store.Worded)
    {row : List Char} (among : row ∈ Text.rows store.text) :
    row = [] ∨ Text.isHeaderRow row ∨ Text.isEntryRow row := by
  have before : ∀ row ∈ store.rows.map String.toList,
      row = [] ∨ Text.isHeaderRow row ∨ Text.isEntryRow row := by
    intro row found
    obtain ⟨text, member, rfl⟩ := List.mem_map.mp found
    rcases mem_rows member with rfl | ⟨block, present, inside⟩
    · exact .inl String.toList_empty
    · exact .inr (row_kind worded present inside)
  by_cases present : store.blocks.toList = []
  · rw [rows_text_of_empty present] at among
    exact .inl (List.mem_singleton.mp among)
  · obtain ⟨front, last, split, trimmed⟩ := rows_text unbroken worded.inked present
    rw [split] at before
    rw [trimmed] at among
    rcases List.mem_append.mp among with early | final
    · exact before row (List.mem_append_left _ early)
    · cases List.mem_singleton.mp final
      rw [Text.isHeaderRow_trimEnd, Text.isEntryRow_trimEnd]
      refine (before last List.mem_concat_self).imp_left ?_
      rintro rfl
      rfl

end Store
end HostTree
