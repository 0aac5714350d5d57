/-
This file shows what the rows of the keyword table are like, and that a name is found in it exactly
when a row spells it.
-/

import HostTree.Proofs.Keyword.Search
import HostTree.Proofs.Text.Octet
import Mathlib.Data.List.Chain

namespace HostTree

/-- The lower case form of a character outside ASCII is the character. -/
theorem Text.toLower_of_not_ascii {character : Char} (wide : 127 < character.toNat) :
    character.toLower = character := by
  refine dif_neg ?_
  rintro ⟨_, upper⟩
  have bound : character.toNat ≤ 90 := upper
  omega

namespace Keyword

variable {row other : Keyword} {name : String}

/-- What is found is a row of the table. -/
theorem mem_table_of_find? {found : Keyword} (known : find? name = some found) :
    found ∈ table.toList :=
  Array.mem_toList_iff.mpr (of_searchBetween known).1

/-- A name that no row spells is not found. -/
theorem find?_eq_none (unknown : ∀ row ∈ table.toList, row.spelling ≠ Text.foldCase name) :
    find? name = none := by
  rw [Option.eq_none_iff_forall_ne_some]
  intro row found
  exact unknown row (mem_table_of_find? found) (of_searchBetween found).2

theorem name_ne_empty : ∀ row ∈ table.toList, row.name ≠ "" := by
  decide +kernel

/-- The octets are checked here because a text is slow to decode. -/
theorem visible_octets : table.toList.all fun row => [row.spelling, row.name].all fun text =>
    (Text.octets text).all fun octet => 32 < octet.toNat && octet.toNat < 127 := by
  decide +kernel

/-- The spellings and names are words of visible characters of ASCII. -/
theorem visible_of_mem (among : row ∈ table.toList) :
    Text.Visible row.spelling ∧ Text.Visible row.name := by
  have texts : ∀ text ∈ [row.spelling, row.name], Text.Visible text := by
    intro text part
    refine Text.visible_of_octets fun octet present => ?_
    have row := List.all_eq_true.mp visible_octets row among
    simpa using List.all_eq_true.mp (List.all_eq_true.mp row text part) octet present
  exact ⟨texts _ List.mem_cons_self, texts _ (List.mem_cons_of_mem _ List.mem_cons_self)⟩

/-- The name of a keyword that is found is visible. -/
theorem visible_name {found : Keyword} (known : find? name = some found) :
    Text.Visible found.name :=
  (visible_of_mem (mem_table_of_find? known)).2

/-- All shorthands have the same name. -/
theorem name_of_shorthand :
    ∀ row ∈ table.toList, row.standing = .shorthand → row.name = "ViaProxy" := by
  decide +kernel

/-- Only active keywords have several rows. -/
theorem name_ne_of_standing : ∀ row ∈ table.toList, row.standing ≠ .active →
    ∀ other ∈ table.toList, other.standing ≠ row.standing → other.name ≠ row.name := by
  decide +kernel

/-- The rows of one keyword have one standing. -/
theorem standing_eq_of_name (among : row ∈ table.toList) (otherAmong : other ∈ table.toList)
    (same : other.name = row.name) : other.standing = row.standing := by
  apply Decidable.byContradiction
  intro different
  by_cases active : row.standing = .active
  · have otherDropped : other.standing ≠ .active := fun otherActive =>
      different (otherActive.trans active.symm)
    exact name_ne_of_standing other otherAmong otherDropped row among (Ne.symm different) same.symm
  · exact name_ne_of_standing row among active other otherAmong different same

theorem octets_spelling_sorted :
    (table.toList.map fun row => Text.octets row.spelling).IsChain (· < ·) := by
  decide +kernel

/-- The rows stand in the order of their spellings. -/
theorem sorted_table : Sorted table := by
  have octets := List.pairwise_map.mp octets_spelling_sorted.pairwise
  exact octets.imp fun less => Text.octets_lt_octets_iff.mp less

/-- A character outside ASCII has no lower case form that a row could be spelled with. -/
theorem find?_of_not_ascii {character : Char} (among : character ∈ name.toList)
    (wide : 127 < character.toNat) : find? name = none := by
  apply find?_eq_none
  intro row present same
  have kept : character ∈ (Text.foldCase name).toList := by
    rw [Text.foldCase, String.toList_map, List.mem_map]
    exact ⟨character, among, Text.toLower_of_not_ascii wide⟩
  have narrow := (visible_of_mem present).1 character (same ▸ kept)
  omega

/-- A name is found exactly when a row has its lower case form as spelling. This row is the only one
with the spelling, and the one that is found when the table is read from its beginning. A name with
a character outside ASCII is not found. -/
theorem search_agrees_with_scan (name : String) :
    (∀ row, find? name = some row ↔
      row ∈ table.toList ∧ row.spelling = Text.foldCase name) ∧
    table.toList.filter (·.spelling == Text.foldCase name) = (find? name).toList ∧
    find? name = scan? name ∧
    ((∃ character ∈ name.toList, 127 < character.toNat) → find? name = none) := by
  have only := sorted_table.filter_spelling (Text.foldCase name)
  refine ⟨fun row => sorted_table.searchBetween_eq_some_iff, only, ?_, ?_⟩
  · rw [scan?, ← List.head?_filter, only, Option.head?_toList]
    rfl
  · rintro ⟨character, among, wide⟩
    exact find?_of_not_ascii among wide

end Keyword
end HostTree
