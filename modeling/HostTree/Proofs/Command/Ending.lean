/-
This file counts the line ends at the end of a written file.
-/

import HostTree.Compile
import HostTree.Proofs.Command.Content
import HostTree.Proofs.Store.Row

namespace HostTree

namespace Text

/-- The last character is a line end, and the one before it is not. -/
def EndsOnce (text : String) : Prop :=
  ∃ before last, text.toList = before ++ [last, '\n'] ∧ last ≠ '\n'

def lineEnds (text : String) : Nat :=
  (text.toList.rtakeWhile (· == '\n')).length

def Blank (text : String) : Prop :=
  ∀ character ∈ text.toList, isBlank character

theorem trim_of_blank {text : String} (blank : Blank text) : trim text = "" := by
  have nothing : dropBlanks text.toList = [] := List.dropWhile_eq_nil_iff.mpr blank
  rw [trim, trimCharacters_eq, nothing]
  rfl

/-- The last character of a trimmed text is not blank. -/
theorem exists_last_of_not_blank {text : String} (visible : ¬ Blank text) :
    ∃ before last, (trim text).toList = before ++ [last] ∧ isBlank last = false := by
  have present : dropBlanks text.toList ≠ [] := fun nothing =>
    visible (List.dropWhile_eq_nil_iff.mp nothing)
  have stays : trimEnd (dropBlanks text.toList) ≠ [] :=
    trimEnd_ne_nil (isHeaderRow_dropBlanks present)
  have ink := List.rdropWhile_last_not isBlank _ stays
  refine ⟨(trimEnd (dropBlanks text.toList)).dropLast,
    (trimEnd (dropBlanks text.toList)).getLast stays, ?_, Bool.eq_false_iff.mpr ink⟩
  rw [trim, String.toList_ofList, trimCharacters_eq]
  exact (List.dropLast_append_getLast stays).symm

theorem blank_trim_iff {text : String} : Blank (trim text) ↔ Blank text := by
  constructor
  · intro blank
    by_contra visible
    obtain ⟨before, last, split, ink⟩ := exists_last_of_not_blank visible
    rw [Blank, split] at blank
    rw [blank last List.mem_concat_self] at ink
    cases ink
  · intro blank
    rw [trim_of_blank blank]
    simp [Blank]

theorem not_blank_of_isHeaderRow {text : String} (header : isHeaderRow text.toList) :
    ¬ Blank text := by
  intro blank
  have nothing : dropBlanks text.toList = [] := List.dropWhile_eq_nil_iff.mpr blank
  rw [dropBlanks_of_isHeaderRow header] at nothing
  rw [nothing] at header
  cases header

theorem lineEnds_eq {text : String} {before : List Char} {last : Char} {count : Nat}
    (split : text.toList = before ++ last :: List.replicate count '\n') (other : last ≠ '\n') :
    lineEnds text = count := by
  rw [lineEnds, split, List.rtakeWhile, List.length_reverse, List.reverse_append, List.reverse_cons,
    List.reverse_replicate, List.append_assoc, List.takeWhile_append_of_pos (by simp),
    List.singleton_append, List.takeWhile_cons_of_neg (by simpa using other), List.append_nil,
    List.length_replicate]

theorem EndsOnce.lineEnds {text : String} (once : EndsOnce text) : lineEnds text = 1 := by
  obtain ⟨before, last, split, other⟩ := once
  exact lineEnds_eq split other

/-- Text without line ends has a last character that is none. -/
theorem exists_last_of_unbroken {text : String} (unbroken : Unbroken text) (present : text ≠ "") :
    ∃ before last, text.toList = before ++ [last] ∧ last ≠ '\n' := by
  have some : text.toList ≠ [] := by simpa using present
  refine ⟨_, _, (List.dropLast_append_getLast some).symm, ?_⟩
  intro same
  exact unbroken (same ▸ List.getLast_mem some)

end Text

namespace ConfigFile

open Text

variable {sourcePath : String}

theorem toList_foldr_rows (front : List String) (back : String) :
    (front.foldr (fun row rest => row ++ "\n" ++ rest) back).toList =
      front.flatMap (fun row => row.toList ++ ['\n']) ++ back.toList := by
  induction front with
  | nil => rfl
  | cons row rest ih => simp [ih]

/-- The row of the source and an empty row stand before the body. -/
theorem exists_toList_text (body sourcePath : String) (instant : Instant) :
    ∃ front row, row = "# Source: " ++ sourcePath ∧ (text body sourcePath instant).toList =
      front ++ row.toList ++ ['\n', '\n'] ++ (trim body).toList ++ ['\n'] := by
  obtain ⟨first, row, rows, same⟩ : ∃ first row,
      headerRows sourcePath instant = first ++ [row, ""] ∧ row = "# Source: " ++ sourcePath :=
    ⟨(headerRows sourcePath instant).take 3, _, rfl, rfl⟩
  refine ⟨first.flatMap fun row => row.toList ++ ['\n'], row, same, ?_⟩
  rw [text_eq_foldr, rows, toList_foldr_rows]
  simp

/-- A visible body brings the last character before the line end. -/
theorem endsOnce_of_visible {body : String} (visible : ¬ Blank body) (instant : Instant) :
    EndsOnce (text body sourcePath instant) := by
  obtain ⟨front, row, _, split⟩ := exists_toList_text body sourcePath instant
  obtain ⟨before, last, trimmed, ink⟩ := exists_last_of_not_blank visible
  refine ⟨front ++ row.toList ++ ['\n', '\n'] ++ before, last, by simp [split, trimmed], ?_⟩
  rintro rfl
  cases ink

/-- Under a blank body two more line ends stand there, which belong to the header. -/
theorem lineEnds_of_blank (unbroken : Unbroken sourcePath) {body : String} (blank : Blank body)
    (instant : Instant) : lineEnds (text body sourcePath instant) = 3 := by
  obtain ⟨front, row, same, split⟩ := exists_toList_text body sourcePath instant
  have unbrokenRow : Unbroken row := same ▸ unbroken_append.mpr ⟨by decide, unbroken⟩
  have present : row ≠ "" := by simp [same]
  obtain ⟨before, last, written, other⟩ := exists_last_of_unbroken unbrokenRow present
  have whole : (text body sourcePath instant).toList =
      (front ++ before) ++ last :: List.replicate 3 '\n' := by
    rw [split, trim_of_blank blank, written]
    simp
  exact lineEnds_eq whole other

end ConfigFile

/-- Only a store without blocks has a blank text. -/
theorem Store.blank_text_iff {store : Store} : Text.Blank store.text ↔ store.blocks = #[] := by
  rw [text_eq, Text.blank_trim_iff, ← Array.toList_eq_nil_iff]
  constructor
  · intro blank
    by_contra present
    exact Text.not_blank_of_isHeaderRow (isHeaderRow_text present) blank
  · intro empty
    rw [rows, empty]
    simp [Text.Blank]

/-- A written file ends with a single line end exactly when its body is visible, whatever blanks the
body begins and ends with. Under a blank body the file ends with three. So the file of a store ends
with a single line end exactly when the store has a block. -/
theorem file_ends_once_iff {sourcePath : String} (unbroken : Text.Unbroken sourcePath)
    (instant : Instant) :
    (∀ body, (Text.EndsOnce (ConfigFile.text body sourcePath instant) ↔ ¬ Text.Blank body) ∧
      (Text.Blank body → Text.lineEnds (ConfigFile.text body sourcePath instant) = 3)) ∧
    ∀ store : Store,
      Text.EndsOnce (ConfigFile.text store.text sourcePath instant) ↔ store.blocks ≠ #[] := by
  have once (body : String) :
      Text.EndsOnce (ConfigFile.text body sourcePath instant) ↔ ¬ Text.Blank body := by
    constructor
    · intro single blank
      have three := ConfigFile.lineEnds_of_blank unbroken blank instant
      rw [single.lineEnds] at three
      cases three
    · intro visible
      exact ConfigFile.endsOnce_of_visible visible instant
  refine ⟨?_, ?_⟩
  · intro body
    exact ⟨once body, fun blank => ConfigFile.lineEnds_of_blank unbroken blank instant⟩
  · intro store
    rw [once, Store.blank_text_iff]

/-- Line ends and wide blanks around a body are dropped. -/
theorem file_ends_once_iff_blanks :
    Text.EndsOnce (ConfigFile.text "\n\u3000 Host a\n\n\t" "/home/u/.edgarrc" ⟨0, 0⟩) := by
  have unbroken : Text.Unbroken "/home/u/.edgarrc" := by decide +kernel
  have visible : ¬ Text.Blank "\n\u3000 Host a\n\n\t" := by
    intro blank
    exact absurd (blank 'H' (by decide +kernel)) (by decide)
  exact ((file_ends_once_iff unbroken ⟨0, 0⟩).1 _).1.mpr visible

/-- A document without blocks is written with two empty lines at the end. -/
theorem empty_body_ends_thrice :
    (compile .null).1.map Store.text = .ok "" ∧ Text.Unbroken "/home/u/.edgarrc" ∧
      ConfigFile.text "" "/home/u/.edgarrc" ⟨0, 0⟩ =
        "\n".intercalate ["# Generated by edgar on 1970-01-01T00:00:00Z", "#",
          "# Be aware that any manual change to it may be overwritten.",
          "# Source: /home/u/.edgarrc", "", "", ""] ∧
      ¬ Text.EndsOnce (ConfigFile.text "" "/home/u/.edgarrc" ⟨0, 0⟩) := by
  have unbroken : Text.Unbroken "/home/u/.edgarrc" := by decide +kernel
  have blank : Text.Blank "" := by simp [Text.Blank]
  refine ⟨rfl, unbroken, by decide +kernel, ?_⟩
  intro single
  have three := ConfigFile.lineEnds_of_blank unbroken blank ⟨0, 0⟩
  rw [single.lineEnds] at three
  cases three

end HostTree
