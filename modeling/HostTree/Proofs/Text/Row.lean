/-
This file splits texts into rows and follows the rows through trimming.
-/

import HostTree.Text.Blank
import Mathlib.Data.List.DropRight

namespace HostTree.Text

/-- No line ends inside the text. -/
def Unbroken (text : String) : Prop :=
  '\n' ∉ text.toList

instance (text : String) : Decidable (Unbroken text) :=
  inferInstanceAs (Decidable ('\n' ∉ text.toList))

/-- A text is cut into rows at its line breaks. -/
def rows (text : String) : List (List Char) :=
  text.toList.splitOn '\n'

/-- The row has no indentation, and it is not blank. -/
def isHeaderRow : List Char → Bool
  | first :: _ => !isBlank first
  | [] => false

/-- The row is not blank, and two spaces stand before it. -/
def isEntryRow : List Char → Bool
  | ' ' :: ' ' :: rest => isHeaderRow rest
  | _ => false

/-- The blanks at the end of a row are dropped. -/
def trimEnd (row : List Char) : List Char :=
  row.rdropWhile isBlank

/-- Trimming takes the blanks away from both ends. -/
theorem trimCharacters_eq (text : List Char) : trimCharacters text = trimEnd (dropBlanks text) :=
  rfl

theorem trimEnd_trimEnd (row : List Char) : trimEnd (trimEnd row) = trimEnd row :=
  List.rdropWhile_idempotent isBlank row

/-- If the second part is not blank, then nothing of the first part is trimmed. -/
theorem trimEnd_append {back : List Char} (visible : trimEnd back ≠ []) (front : List Char) :
    trimEnd (front ++ back) = front ++ trimEnd back := by
  have stays : (back.reverse.dropWhile isBlank).isEmpty = false := by
    rw [List.isEmpty_eq_false_iff]
    exact fun empty => visible (congrArg List.reverse empty)
  rw [trimEnd, List.rdropWhile, List.reverse_append, List.dropWhile_append, stays,
    if_neg Bool.false_ne_true, List.reverse_append, List.reverse_reverse]
  rfl

/-- A character is trimmed if it is blank and nothing but blanks follow. -/
theorem trimEnd_cons (first : Char) (rest : List Char) :
    trimEnd (first :: rest) =
      if isBlank first ∧ trimEnd rest = [] then [] else first :: trimEnd rest := by
  by_cases empty : trimEnd rest = []
  · have blank : ∀ character ∈ rest, isBlank character := List.rdropWhile_eq_nil_iff.mp empty
    cases ink : isBlank first with
    | true =>
      rw [if_pos ⟨rfl, empty⟩]
      exact List.rdropWhile_eq_nil_iff.mpr (List.forall_mem_cons.mpr ⟨ink, blank⟩)
    | false =>
      rw [if_neg (by simp), empty, trimEnd, List.rdropWhile, List.reverse_cons,
        List.dropWhile_append_of_pos (by simpa using blank),
        List.dropWhile_cons_of_neg (by simp [ink])]
      rfl
  · rw [if_neg fun both => empty both.2]
    exact trimEnd_append empty [first]

/-- Blanks at the end say nothing about the kind of a row. -/
theorem isHeaderRow_trimEnd (row : List Char) : isHeaderRow (trimEnd row) = isHeaderRow row := by
  cases row with
  | nil => rfl
  | cons first rest =>
    rw [trimEnd_cons]
    split
    · next blank => simp [isHeaderRow, blank.1]
    · rfl

/-- A header is not blank. -/
theorem trimEnd_ne_nil {row : List Char} (header : isHeaderRow row) : trimEnd row ≠ [] := by
  intro empty
  rw [← isHeaderRow_trimEnd, empty] at header
  cases header

/-- An entry is a header behind two blanks. -/
theorem isEntryRow_iff {row : List Char} :
    isEntryRow row ↔ ∃ rest, row = [' ', ' '] ++ rest ∧ isHeaderRow rest := by
  fun_cases isEntryRow row with
  | case1 rest => simp
  | case2 row other =>
    constructor
    · exact fun entry => absurd entry Bool.false_ne_true
    · rintro ⟨rest, rfl, _⟩
      exact (other rest rfl).elim

/-- No row is of both kinds. -/
theorem isHeaderRow_of_isEntryRow {row : List Char} (entry : isEntryRow row) :
    isHeaderRow row = false := by
  obtain ⟨rest, rfl, _⟩ := isEntryRow_iff.mp entry
  rfl

/-- The blanks at its end do not decide whether a row is an entry. -/
theorem isEntryRow_trimEnd (row : List Char) : isEntryRow (trimEnd row) = isEntryRow row := by
  rw [Bool.eq_iff_iff, isEntryRow_iff, isEntryRow_iff]
  constructor
  · rintro ⟨rest, trimmed, header⟩
    obtain ⟨blanks, joined⟩ := List.rdropWhile_prefix isBlank row
    refine ⟨rest ++ blanks, ?_, ?_⟩
    · rw [← List.append_assoc, ← trimmed]
      exact joined.symm
    · cases rest with
      | nil => cases header
      | cons first rest => exact header
  · rintro ⟨rest, rfl, header⟩
    refine ⟨trimEnd rest, trimEnd_append (trimEnd_ne_nil header) _, ?_⟩
    rwa [isHeaderRow_trimEnd]

theorem intercalate_concat {Content : Type} (separator : List Content)
    (front : List (List Content)) (last : List Content) :
    separator.intercalate (front ++ [last]) = front.flatMap (· ++ separator) ++ last := by
  induction front with
  | nil => simp
  | cons first rest ih =>
    rw [List.cons_append, List.intercalate_cons_of_ne_nil (by simp), ih]
    simp

/-- Joined rows begin with a header if the first row is one. -/
theorem isHeaderRow_intercalate {first : List Char} (header : isHeaderRow first)
    (separator : List Char) (rest : List (List Char)) :
    isHeaderRow (separator.intercalate (first :: rest)) := by
  cases first with
  | nil => cases header
  | cons character others =>
    rw [List.intercalate_cons_cons_left]
    exact header

/-- Nothing is dropped from the beginning of a header. -/
theorem dropBlanks_of_isHeaderRow {text : List Char} (header : isHeaderRow text) :
    dropBlanks text = text := by
  cases text with
  | nil => rfl
  | cons first rest => exact List.dropWhile_cons_of_neg (by simpa [isHeaderRow] using header)

/-- What is left after the blanks is a header. -/
theorem isHeaderRow_dropBlanks {text : List Char} (present : dropBlanks text ≠ []) :
    isHeaderRow (dropBlanks text) := by
  have visible : isBlank ((dropBlanks text).head present) = false :=
    List.head_dropWhile_not isBlank present
  obtain ⟨first, rest, split⟩ := List.exists_cons_of_ne_nil present
  simp only [split, List.head_cons] at visible
  rw [split, isHeaderRow, visible]
  rfl

/-- The last row keeps its place in a trimmed text, and it loses the blanks at its end. -/
theorem rows_trim {front : List (List Char)} {last : List Char}
    (unbroken : ∀ row ∈ front ++ [last], '\n' ∉ row)
    (starts : isHeaderRow (['\n'].intercalate (front ++ [last]))) (ends : trimEnd last ≠ []) :
    rows (trim (String.ofList (['\n'].intercalate (front ++ [last])))) =
      front ++ [trimEnd last] := by
  have trimmed : ∀ row ∈ front ++ [trimEnd last], '\n' ∉ row := by
    intro row among
    rcases List.mem_append.mp among with before | final
    · exact unbroken row (List.mem_append_left _ before)
    · cases List.mem_singleton.mp final
      have kept := (List.rdropWhile_prefix isBlank last).subset
      exact fun broken => unbroken last List.mem_concat_self (kept broken)
  rw [rows, trim, String.toList_ofList, String.toList_ofList, trimCharacters_eq,
    dropBlanks_of_isHeaderRow starts, intercalate_concat, trimEnd_append ends,
    ← intercalate_concat]
  exact List.splitOn_intercalate _ trimmed (by simp)

/-- A test that takes no account of the blanks at the end finds the same rows after trimming. -/
theorem filter_trimEnd {test : List Char → Bool} (same : ∀ row, test (trimEnd row) = test row)
    (front : List (List Char)) (last : List Char) :
    ((front ++ [trimEnd last]).filter test).map trimEnd =
      ((front ++ [last]).filter test).map trimEnd := by
  rw [List.filter_append, List.filter_append, List.map_append, List.map_append]
  cases found : test last <;> simp [found, same, trimEnd_trimEnd]

end HostTree.Text
