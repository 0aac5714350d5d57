/-
This file shows that the text of a value has no line breaks that the value does not have.
-/

import HostTree.Proofs.Text.Row
import HostTree.Value

namespace HostTree

namespace Text

variable {first second : String}

/-- A text is on one line exactly when both of its parts are. -/
theorem unbroken_append : Unbroken (first ++ second) ↔ Unbroken first ∧ Unbroken second := by
  rw [Unbroken, String.toList_append, List.mem_append, not_or]
  rfl

theorem unbroken_ofList {characters : List Char} :
    Unbroken (String.ofList characters) ↔ '\n' ∉ characters := by
  rw [Unbroken, String.toList_ofList]

/-- Texts on one line stay on one line when they are joined without a line break. -/
theorem unbroken_intercalate {separator : String} (between : Unbroken separator)
    {parts : List String} (each : ∀ part ∈ parts, Unbroken part) :
    Unbroken (separator.intercalate parts) := by
  induction parts with
  | nil => simp [Unbroken]
  | cons part rest ih =>
    obtain ⟨now, later⟩ := List.forall_mem_cons.mp each
    by_cases last : rest = []
    · rwa [last, String.intercalate_singleton]
    · rw [String.intercalate_cons_of_ne_nil last, unbroken_append, unbroken_append]
      exact ⟨⟨now, between⟩, ih later⟩

/-- No digit is a line break. -/
theorem newline_notMem_toDigits (number : Nat) : '\n' ∉ Nat.toDigits 10 number := by
  intro among
  exact absurd (Nat.isDigit_of_mem_toDigits (by decide) (by decide) among) (by decide)

/-- A number is written on one line. -/
theorem unbroken_toString (number : Int) : Unbroken (toString number) := by
  cases number with
  | ofNat magnitude =>
    change Unbroken (Nat.repr magnitude)
    rw [Unbroken, Nat.toList_repr]
    exact newline_notMem_toDigits magnitude
  | negSucc predecessor =>
    change Unbroken ("-" ++ Nat.repr (predecessor + 1))
    rw [unbroken_append, Unbroken, Unbroken, Nat.toList_repr]
    exact ⟨by decide, newline_notMem_toDigits _⟩

end Text

namespace Decimal.Layout

open Text

theorem unbroken_zeros (count : Int) : Unbroken (zeros count) := by
  rw [zeros, unbroken_ofList]
  exact fun among => absurd (List.eq_of_mem_replicate among) (by decide)

/-- A number without an exponent is written on one line. -/
theorem unbroken_positional (number : Scientific) : Unbroken (positional number) := by
  have absent := newline_notMem_toDigits number.digits
  have digits : Unbroken (String.ofList (Nat.toDigits 10 number.digits)) :=
    unbroken_ofList.mpr absent
  have whole (count : Nat) :
      Unbroken (String.ofList ((Nat.toDigits 10 number.digits).take count)) :=
    unbroken_ofList.mpr fun among => absent (List.mem_of_mem_take among)
  have fraction (count : Nat) :
      Unbroken (String.ofList ((Nat.toDigits 10 number.digits).drop count)) :=
    unbroken_ofList.mpr fun among => absent (List.mem_of_mem_drop among)
  unfold positional
  dsimp only
  split_ifs
  · rw [unbroken_append, unbroken_append]
    exact ⟨⟨by decide, unbroken_zeros _⟩, digits⟩
  · rw [unbroken_append, unbroken_append]
    exact ⟨⟨digits, unbroken_zeros _⟩, by decide⟩
  · rw [unbroken_append, unbroken_append]
    exact ⟨⟨whole _, by decide⟩, fraction _⟩

/-- A number with an exponent is written on one line. -/
theorem unbroken_powerOfTen (number : Scientific) : Unbroken (powerOfTen number) := by
  have digits := newline_notMem_toDigits number.digits
  unfold powerOfTen
  dsimp only
  rw [unbroken_append, unbroken_append]
  refine ⟨⟨?_, by decide⟩, unbroken_toString _⟩
  split
  · next first second rest several =>
    rw [several] at digits
    rw [unbroken_ofList]
    simpa using digits
  · rwa [unbroken_ofList]

/-- Each layout writes a number on one line. -/
theorem unbroken_write (layout : Decimal.Layout) (number : Float) :
    Unbroken (layout.write number) := by
  have sign (negative : Bool) : Unbroken (if negative then "-" else "") := by
    cases negative <;> decide
  unfold write
  dsimp only
  split
  · decide
  · exact unbroken_append.mpr ⟨sign _, by decide⟩
  · refine unbroken_append.mpr ⟨sign _, ?_⟩
    unfold magnitude
    dsimp only
    split_ifs
    · decide
    · exact unbroken_positional _
    · exact unbroken_powerOfTen _

end Decimal.Layout

namespace Value

/-- No text and no key in the value has a line break. -/
inductive Unbroken : Value → Prop where
  | null : Unbroken null
  | boolean (truth : Bool) : Unbroken (boolean truth)
  | integer (number : Int64) : Unbroken (integer number)
  | float (number : Float) : Unbroken (float number)
  | string {content : String} (line : Text.Unbroken content) : Unbroken (string content)
  | sequence {items : List Value} (each : ∀ item ∈ items, Unbroken item) :
    Unbroken (sequence items)
  | mapping {entries : List (String × Value)} (keys : ∀ entry ∈ entries, Text.Unbroken entry.1)
    (contents : ∀ entry ∈ entries, Unbroken entry.2) : Unbroken (mapping entries)

/-- A value without a line break in any of its texts is written on one line. -/
theorem unbroken_text {value : Value} (unbroken : value.Unbroken) : Text.Unbroken value.text := by
  induction unbroken with
  | null => decide
  | boolean truth => cases truth <;> decide
  | integer number => exact Text.unbroken_toString _
  | float number => exact Decimal.Layout.unbroken_write _ _
  | string line => exact line
  | sequence each ih =>
    rw [text, texts_eq_map]
    exact Text.unbroken_intercalate (by decide) (List.forall_mem_map.mpr ih)
  | mapping keys contents ih =>
    rw [text, assignments_eq_map]
    refine Text.unbroken_intercalate (by decide) (List.forall_mem_map.mpr ?_)
    intro entry among
    rw [Text.unbroken_append, Text.unbroken_append]
    exact ⟨⟨keys entry among, by decide⟩, ih entry among⟩

end Value
end HostTree
