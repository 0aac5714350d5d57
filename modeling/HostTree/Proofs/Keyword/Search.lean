/-
This file shows that the search by halves finds exactly the row that has a spelling.
-/

import HostTree.Keyword.Search
import Mathlib.Data.List.Basic
import Mathlib.Data.String.Basic

namespace HostTree.Keyword

variable {rows : Array Keyword} {row other : Keyword} {spelling : String}

/-- The search finds only rows of the table with the spelling that it looks for. -/
theorem of_searchBetween {low high steps : Nat}
    (found : searchBetween rows spelling low high steps = some row) :
    row ∈ rows ∧ row.spelling = spelling := by
  induction steps generalizing low high with
  | zero => cases found
  | succ steps ih =>
    rw [searchBetween] at found
    split at found
    · dsimp only at found
      split at found
      · cases found
      · rename_i middle present
        split at found
        case h_1 same =>
          cases found
          exact ⟨Array.mem_of_getElem? present, (Std.LawfulEqOrd.eq_of_compare same).symm⟩
        case h_2 => exact ih found
        case h_3 => exact ih found
    · cases found

/-- The rows stand in the order of their spellings, so that no spelling is there twice. -/
def Sorted (rows : Array Keyword) : Prop :=
  rows.toList.Pairwise fun first second => first.spelling < second.spelling

namespace Sorted

variable (sorted : Sorted rows)
include sorted

theorem spelling_lt {low high : Nat} (below : low < high) (lowRow : rows[low]? = some row)
    (highRow : rows[high]? = some other) : row.spelling < other.spelling := by
  obtain ⟨lowInside, rfl⟩ := Array.getElem?_eq_some_iff.mp lowRow
  obtain ⟨highInside, rfl⟩ := Array.getElem?_eq_some_iff.mp highRow
  exact List.pairwise_iff_getElem.mp sorted low high lowInside highInside below

/-- The spellings of two rows are compared as their places are. -/
theorem compare_spelling {place middle : Nat} (placeRow : rows[place]? = some row)
    (middleRow : rows[middle]? = some other) :
    compare row.spelling other.spelling = compare place middle := by
  rcases Nat.lt_trichotomy place middle with before | rfl | behind
  · rw [Nat.compare_eq_lt.mpr before]
    exact compareOfLessAndEq_eq_lt.mpr (sorted.spelling_lt before placeRow middleRow)
  · obtain rfl : row = other := Option.some_inj.mp (placeRow.symm.trans middleRow)
    rw [Nat.compare_eq_eq.mpr rfl]
    exact Std.ReflOrd.compare_self
  · rw [Nat.compare_eq_gt.mpr behind, Std.OrientedCmp.gt_iff_lt]
    exact compareOfLessAndEq_eq_lt.mpr (sorted.spelling_lt behind middleRow placeRow)

theorem nodup : rows.toList.Nodup := by
  refine List.Pairwise.imp ?_ sorted
  rintro first _ less rfl
  exact lt_irrefl first.spelling less

/-- The row that is looked for stays in the searched part, whose length bounds the steps. -/
theorem searchBetween_getElem {place : Nat} (present : rows[place]? = some row)
    {low high steps : Nat} (lower : low ≤ place) (upper : place < high) (inside : high ≤ rows.size)
    (enough : high - low ≤ steps) : searchBetween rows row.spelling low high steps = some row := by
  induction steps generalizing low high with
  | zero => omega
  | succ steps ih =>
    rw [searchBetween, if_pos (Nat.lt_of_le_of_lt lower upper)]
    dsimp only
    have middleInside : low + (high - low) / 2 < rows.size := by omega
    have middleRow := Array.getElem?_eq_getElem middleInside
    rw [middleRow]
    dsimp only
    rw [sorted.compare_spelling present middleRow]
    cases order : compare place (low + (high - low) / 2) with
    | lt =>
      have before := Nat.compare_eq_lt.mp order
      exact ih lower before (by omega) (by omega)
    | eq =>
      have same := Nat.compare_eq_eq.mp order
      rw [← middleRow, ← same, present]
    | gt =>
      have behind := Nat.compare_eq_gt.mp order
      exact ih behind upper inside (by omega)

theorem searchBetween_eq_some_iff :
    searchBetween rows spelling 0 rows.size rows.size = some row ↔
      row ∈ rows.toList ∧ row.spelling = spelling := by
  constructor
  · intro found
    obtain ⟨among, spelled⟩ := of_searchBetween found
    exact ⟨Array.mem_toList_iff.mpr among, spelled⟩
  · rintro ⟨among, rfl⟩
    obtain ⟨place, present⟩ := Array.mem_iff_getElem?.mp (Array.mem_toList_iff.mp among)
    obtain ⟨inside, _⟩ := Array.getElem?_eq_some_iff.mp present
    exact sorted.searchBetween_getElem present (Nat.zero_le _) inside (Nat.le_refl _)
      (Nat.le_refl _)

/-- No other row has the spelling of the row that is found. -/
theorem filter_spelling (spelling : String) :
    rows.toList.filter (·.spelling == spelling) =
      (searchBetween rows spelling 0 rows.size rows.size).toList := by
  have members (row : Keyword) : row ∈ rows.toList.filter (·.spelling == spelling) ↔
      searchBetween rows spelling 0 rows.size rows.size = some row := by
    rw [List.mem_filter, sorted.searchBetween_eq_some_iff, beq_iff_eq]
  cases found : searchBetween rows spelling 0 rows.size rows.size with
  | none =>
    rw [Option.toList_none, List.eq_nil_iff_forall_not_mem]
    intro row among
    rw [members, found] at among
    cases among
  | some row =>
    rw [Option.toList_some, ← List.perm_singleton,
      List.perm_ext_iff_of_nodup (sorted.nodup.filter _) (List.pairwise_singleton _ row)]
    intro other
    rw [members, found, Option.some_inj, List.mem_singleton, eq_comm]

end Sorted

end HostTree.Keyword
