/-
This file reads the text of a store back.
-/

import HostTree.Proofs.Store.Push
import HostTree.Proofs.Store.Row

namespace HostTree

/-- A plain text is not empty, no line ends inside it, and it does not end with a blank. -/
structure Text.Plain (text : String) : Prop where
  present : text ≠ ""
  unbroken : Text.Unbroken text
  ends : text.toList.getLast?.all fun last => !Text.isBlank last

instance (text : String) : Decidable (Text.Plain text) :=
  decidable_of_iff (text ≠ "" ∧ Text.Unbroken text ∧
      text.toList.getLast?.all fun last => !Text.isBlank last)
    ⟨fun ⟨present, unbroken, ends⟩ => ⟨present, unbroken, ends⟩,
      fun plain => ⟨plain.present, plain.unbroken, plain.ends⟩⟩

/-- Nothing is trimmed from the end of a plain text. -/
theorem Text.Plain.trimEnd_eq {text : String} (plain : Text.Plain text) :
    Text.trimEnd text.toList = text.toList := by
  refine List.rdropWhile_eq_self_iff.mpr fun some => ?_
  have ends := plain.ends
  rw [List.getLast?_eq_some_getLast some] at ends
  simpa using ends

theorem Text.Plain.toList_ne_nil {text : String} (plain : Text.Plain text) : text.toList ≠ [] :=
  fun empty => plain.present (String.toList_eq_nil_iff.mp empty)

/-- Plain text behind other text keeps its last character. -/
theorem Text.Plain.trimEnd_append {text : String} (plain : Text.Plain text) (front : List Char) :
    Text.trimEnd (front ++ text.toList) = front ++ text.toList := by
  rw [Text.trimEnd_append, plain.trimEnd_eq]
  rw [plain.trimEnd_eq]
  exact plain.toList_ne_nil

/-- A kind is read from its word. -/
def BlockKind.ofWord? (word : String) : Option BlockKind :=
  if word = "Host" then some .host else if word = "Match" then some .matching else none

/-- Each kind is read back from its word. -/
theorem BlockKind.ofWord?_word (kind : BlockKind) : BlockKind.ofWord? kind.word = some kind := by
  cases kind <;> rfl

/-- The first space behind the word of a kind ends it. -/
theorem BlockKind.space_notMem_word (kind : BlockKind) : ' ' ∉ kind.word.toList := by
  cases kind <;> decide

/-- A listing holds what the text shows of a block. -/
structure Listing where
  kind : BlockKind
  name : String
  lines : List String
  deriving DecidableEq

namespace Listing

/-- One space stands between the kind and the name, and more spaces belong to the name. -/
def readHeader? (row : String) : Option (BlockKind × String) :=
  match row.toList.dropWhile (· ≠ ' ') with
  | ' ' :: name =>
    (BlockKind.ofWord? (String.ofList (row.toList.takeWhile (· ≠ ' ')))).map fun kind =>
      (kind, String.ofList name)
  | _ => none

/-- Only the two spaces of the indentation go. -/
def readEntry? (row : String) : Option String :=
  match row.toList with
  | ' ' :: ' ' :: line => some (String.ofList line)
  | _ => none

/-- The first row is the header, and each further one is an entry. -/
def ofRows? : List String → Option Listing
  | header :: entries => do
    let (kind, name) ← readHeader? header
    let lines ← entries.mapM readEntry?
    return ⟨kind, name, lines⟩
  | [] => none

/-- Empty rows part the blocks. -/
def read? (text : String) : Option (List Listing) :=
  if text = "" then some []
  else (((Text.rows text).map String.ofList).splitOn "").mapM ofRows?

end Listing

namespace Block

/-- The lines are sorted. -/
def listing (block : Block) : Listing :=
  ⟨block.kind, block.name, block.lines.toList⟩

/-- A block is known by its kind, its name and its lines. -/
theorem listing_injective : Function.Injective listing := by
  intro left right same
  obtain ⟨kind, name, lines⟩ := Listing.mk.inj same
  exact Block.ext name kind (Std.ExtTreeSet.toList_inj.mp lines)

/-- The header of a block is read back. -/
theorem readHeader?_header (block : Block) :
    Listing.readHeader? block.header = some (block.kind, block.name) := by
  have word : ∀ character ∈ block.kind.word.toList, decide (character ≠ ' ') = true := by
    intro character among
    refine decide_eq_true fun space => block.kind.space_notMem_word ?_
    rwa [← space]
  have split : block.header.toList = block.kind.word.toList ++ ' ' :: block.name.toList := by
    simp [header]
  rw [Listing.readHeader?, split, List.dropWhile_append_of_pos word,
    List.takeWhile_append_of_pos word]
  simp [BlockKind.ofWord?_word]

/-- A line is read back from its row. -/
theorem readEntry?_indented (line : String) : Listing.readEntry? ("  " ++ line) = some line := by
  rw [Listing.readEntry?, String.toList_append]
  exact congrArg some String.ofList_toList

/-- A block is read back from its rows. -/
theorem ofRows?_rows (block : Block) : Listing.ofRows? block.rows = some block.listing := by
  have entries : (block.lines.toList.map ("  " ++ ·)).mapM Listing.readEntry? =
      some block.lines.toList := by
    rw [List.mapM_map]
    simp only [Function.comp_def, readEntry?_indented]
    exact List.mapM_pure.trans (congrArg some (List.map_id _))
  rw [rows, Listing.ofRows?, readHeader?_header]
  simp only [Option.bind_eq_bind, Option.bind_some, entries]
  rfl

/-- No row of a block is empty. -/
theorem ne_empty_of_mem_rows {block : Block} {row : String} (inside : row ∈ block.rows) :
    row ≠ "" := by
  intro empty
  rcases List.mem_cons.mp inside with header | entry
  · have visible := block.isHeaderRow_header
    rw [← header, empty] at visible
    cases visible
  · obtain ⟨line, _, indented⟩ := List.mem_map.mp entry
    rw [empty] at indented
    exact absurd (String.append_eq_empty_iff.mp indented).1 (by decide)

end Block

namespace Store

/-- All names and all lines of a store are plain. -/
structure Plain (store : Store) : Prop where
  names : ∀ name ∈ store.names, Text.Plain name
  lines : store.AllLines Text.Plain

namespace Plain

variable {store : Store}

theorem empty : Store.empty.Plain :=
  ⟨fun _ none => absurd none List.not_mem_nil, allLines_empty⟩

/-- A store stays plain when plain texts are pushed to it. -/
theorem push (plain : store.Plain) {name : String} (plainName : Text.Plain name)
    (kind : BlockKind) {lines : List String} (plainLines : ∀ line ∈ lines, Text.Plain line) :
    (store.push name kind lines).Plain := by
  refine ⟨?_, plain.lines.push plainLines name kind⟩
  intro other among
  rcases mem_names_push.mp among with rfl | former
  · exact plainName
  · exact plain.names other former

/-- A plain store has no line breaks. -/
theorem unbroken (plain : store.Plain) : store.Unbroken := by
  intro block among
  have name := plain.names block.name (List.mem_map_of_mem among)
  exact ⟨name.unbroken, fun line member => (plain.lines block among line member).unbroken⟩

/-- No name and no line of a plain store is blank. -/
theorem inked (plain : store.Plain) : store.Inked := by
  intro block among line member
  have text := plain.lines block among line member
  rw [text.trimEnd_eq]
  exact text.toList_ne_nil

/-- No row has blanks at its end that the trimming of the whole text could take away. -/
theorem trimEnd_row (plain : store.Plain) {row : String} (among : row ∈ store.rows) :
    Text.trimEnd row.toList = row.toList := by
  rcases mem_rows among with rfl | ⟨block, present, inside⟩
  · rfl
  · rcases List.mem_cons.mp inside with rfl | entry
    · have name := plain.names block.name (List.mem_map_of_mem present)
      rw [Block.header, String.toList_append]
      exact name.trimEnd_append _
    · obtain ⟨line, member, rfl⟩ := List.mem_map.mp entry
      have text := plain.lines block present line (Std.ExtTreeSet.mem_toList.mp member)
      rw [String.toList_append]
      exact text.trimEnd_append _

/-- The rows of the text are those of the store, as nothing is trimmed. -/
theorem rows_text (plain : store.Plain) (present : store.blocks.toList ≠ []) :
    Text.rows store.text = store.rows.map String.toList := by
  obtain ⟨front, last, split, trimmed⟩ := Store.rows_text plain.unbroken plain.inked present
  have final : last ∈ store.rows.map String.toList := by
    rw [split]
    exact List.mem_concat_self
  obtain ⟨row, among, rfl⟩ := List.mem_map.mp final
  rw [trimmed, split, plain.trimEnd_row among]

end Plain

variable {store : Store}

/-- The rows of a block are not empty, so that the empty rows are the separators. -/
theorem splitOn_rows (present : store.blocks.toList ≠ []) :
    store.rows.splitOn "" = store.blocks.toList.map Block.rows := by
  refine List.splitOn_intercalate _ ?_ (by simpa using present)
  intro group among empty
  obtain ⟨block, _, rfl⟩ := List.mem_map.mp among
  exact Block.ne_empty_of_mem_rows empty rfl

/-- Each block can be seen in the text, even one without lines. -/
theorem header_mem_rows_text (plain : store.Plain) {block : Block}
    (among : block ∈ store.blocks.toList) : block.header.toList ∈ Text.rows store.text := by
  have inside : block.header ∈ block.rows := List.mem_cons_self
  have found : block.header ∈ store.rows.filter (· ≠ "") := by
    rw [filter_rows (by simp)]
    refine List.mem_flatMap.mpr ⟨block, among, List.mem_filter.mpr ⟨inside, ?_⟩⟩
    exact decide_eq_true (Block.ne_empty_of_mem_rows inside)
  rw [plain.rows_text (List.ne_nil_of_mem among)]
  exact List.mem_map_of_mem (List.mem_filter.mp found).1

/-- A store with a block has a text. -/
theorem text_ne_empty (plain : store.Plain) {block : Block}
    (among : block ∈ store.blocks.toList) : store.text ≠ "" := by
  intro empty
  have shown := header_mem_rows_text plain among
  rw [empty] at shown
  have nothing : block.header = "" := String.toList_eq_nil_iff.mp (List.mem_singleton.mp shown)
  exact Block.ne_empty_of_mem_rows (List.mem_cons_self : block.header ∈ block.rows) nothing

/-- The blocks of a plain store are read back from its text. -/
theorem read?_text (plain : store.Plain) :
    Listing.read? store.text = some (store.blocks.toList.map Block.listing) := by
  by_cases present : store.blocks.toList = []
  · have empty : store.text = "" := by
      rw [text, present]
      rfl
    rw [Listing.read?, if_pos empty, present]
    rfl
  · obtain ⟨block, among⟩ := List.exists_mem_of_ne_nil _ present
    have back : (Text.rows store.text).map String.ofList = store.rows := by
      rw [plain.rows_text present, List.map_map]
      simp [Function.comp_def]
    rw [Listing.read?, if_neg (text_ne_empty plain among), back, splitOn_rows present,
      List.mapM_map]
    simp only [Function.comp_def, Block.ofRows?_rows]
    exact List.mapM_pure

/-- Nothing is lost when a store is written, so that plain stores with different blocks have
different texts, and a block without lines shows its header. -/
theorem read_text (plain : store.Plain) :
    Listing.read? store.text = some (store.blocks.toList.map Block.listing) ∧
      (∀ other : Store, other.Plain → other.blocks ≠ store.blocks → other.text ≠ store.text) ∧
      ∀ block ∈ store.blocks.toList, block.header.toList ∈ Text.rows store.text := by
  refine ⟨read?_text plain, ?_, fun block among => header_mem_rows_text plain among⟩
  intro other plainOther different same
  have listings := read?_text plainOther
  rw [same, read?_text plain] at listings
  have blocks := List.map_injective_iff.mpr Block.listing_injective (Option.some.inj listings)
  exact different (Array.toList_inj.mp blocks.symm)

/-- A block without lines and a line that looks like a header are read back as they are. -/
theorem read_text_header :
    let store := (empty.push "a  b" .host []).push "Host" .matching ["Match  x", "Host *"]
    Listing.read? store.text =
      some [⟨.host, "a  b", []⟩, ⟨.matching, "Host", ["Host *", "Match  x"]⟩] := by
  intro store
  have plain : store.Plain := by
    have first : (empty.push "a  b" .host []).Plain :=
      Plain.empty.push (by decide) _ (by decide)
    exact first.push (by decide) _ (by decide)
  have listings : store.blocks.toList.map Block.listing =
      [⟨.host, "a  b", []⟩, ⟨.matching, "Host", ["Host *", "Match  x"]⟩] := by
    decide +kernel
  exact (read_text plain).1.trans (congrArg some listings)

end Store
end HostTree
