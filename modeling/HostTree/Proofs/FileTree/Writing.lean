/-
This file shows that a file holds what was written to it.
-/

import HostTree.FileTree
import Mathlib.Data.List.Basic

namespace HostTree.FileTree

variable {tree : FileTree} {location : Location}

theorem entry_put_self (inside : location ≠ []) (entry : FileEntry) :
    FileTree.entry? (tree.put location entry) location = some entry := by
  have removed : (tree.entries.filter fun other => other.1 ≠ location).lookup location = none := by
    rw [List.lookup_eq_none_iff]
    intro other among
    have different : other.1 ≠ location := of_decide_eq_true (List.mem_filter.mp among).2
    exact bne_iff_ne.mpr different.symm
  rw [FileTree.entry?, if_neg inside, put, List.lookup_append, removed, List.lookup_cons_self]
  rfl

theorem entry_put_of_ne {other : Location} (different : other ≠ location) (entry : FileEntry) :
    FileTree.entry? (tree.put location entry) other = tree.entry? other := by
  have kept : (tree.entries.filter fun former => former.1 ≠ location).lookup other =
      tree.entries.lookup other := by
    induction tree.entries with
    | nil => rfl
    | cons former rest ih =>
      by_cases replaced : former.1 = location
      · have apart : (other == former.1) = false := by
          rw [replaced]
          exact beq_false_of_ne different
        rw [List.filter_cons_of_neg (by simpa using replaced), ih, List.lookup_cons, apart]
      · rw [List.filter_cons_of_pos (by simpa using replaced), List.lookup_cons, List.lookup_cons,
          ih]
  have apart : (other == location) = false := beq_false_of_ne different
  rw [FileTree.entry?, FileTree.entry?, put, List.lookup_append, kept, List.lookup_cons, apart,
    List.lookup_nil, Option.or_none]

/-- A file that stands in the place of no directory opens no way and closes none. -/
theorem locate_put_file (inside : location ≠ [])
    (blocked : (tree.entry? location).any FileEntry.isDirectory = false) (content : ByteArray)
    (path : List Char) : (tree.put location (.file content)).locate path = tree.locate path := by
  have directories (other : Location) :
      (FileTree.entry? (tree.put location (.file content)) other).any FileEntry.isDirectory =
        (tree.entry? other).any FileEntry.isDirectory := by
    by_cases same : other = location
    · rw [same, blocked, entry_put_self inside]
      rfl
    · rw [entry_put_of_ne same]
  have enter : (tree.put location (.file content)).enter = tree.enter := by
    funext other segment
    rw [FileTree.enter, FileTree.enter, directories]
  rw [locate, locate, follow, follow, enter]
  rfl

end HostTree.FileTree
