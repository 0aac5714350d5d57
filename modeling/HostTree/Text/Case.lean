/-
This file compares texts without regard to the case of ASCII letters.
-/

namespace HostTree.Text

/-- Only ASCII letters change. -/
def foldCase (text : String) : String :=
  text.map Char.toLower

def sameFolded (left right : String) : Bool :=
  foldCase left == foldCase right

theorem sameFolded_eq (left right : String) :
    sameFolded left right = (left.toList.map Char.toLower == right.toList.map Char.toLower) := by
  rw [Bool.eq_iff_iff, sameFolded, foldCase, foldCase, beq_iff_eq, beq_iff_eq, ← String.toList_inj,
    String.toList_map, String.toList_map]

end HostTree.Text
