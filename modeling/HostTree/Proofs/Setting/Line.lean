/-
This file shows which lines a setting can be turned into.
-/

import HostTree.Proofs.Keyword.Table
import HostTree.Proofs.Setting.Evaluation

namespace HostTree.Setting

variable {item : Option Value} {setting : Setting} {line : String}

/-- A setting has a line exactly if its keyword is active or a shorthand and its content can be
resolved. -/
theorem line?_eq_some_iff : setting.line? item = some line ↔
    ∃ found text, Keyword.find? setting.name = some found ∧
      Template.resolveValue setting.content item = .ok text ∧
      (found.standing = .active ∧ line = found.name ++ " " ++ text ∨
        found.standing = .shorthand ∧ line = jumpKeyword ++ " " ++ jumpCommand ++ " " ++ text) := by
  unfold line?
  cases known : Keyword.find? setting.name with
  | none => simp [compile_of_unknown known]
  | some found =>
    rw [compile_of_known known]
    cases resolved : Template.resolveValue setting.content item <;>
      cases standing : found.standing <;>
        simp [Except.map, standing, eq_comm]

theorem visible_jumpKeyword : Text.Visible jumpKeyword := by
  decide

/-- The keyword of a line is its first word. -/
def lineKeyword (line : String) : String :=
  String.ofList (line.toList.takeWhile (· ≠ ' '))

/-- The name of the option stands for a jump host. -/
def isShorthand (setting : Setting) : Bool :=
  (Keyword.find? setting.name).any (·.standing = .shorthand)

/-- A visible word is the keyword of the line that begins with it. -/
theorem lineKeyword_append {word : String} (visible : Text.Visible word) (text : String) :
    lineKeyword (word ++ " " ++ text) = word := by
  have single : ∀ character ∈ word.toList, decide (character ≠ ' ') = true := by
    intro character among
    refine decide_eq_true ?_
    rintro rfl
    exact absurd (visible ' ' among) (by decide)
  rw [lineKeyword, String.toList_append, String.toList_append, List.append_assoc,
    List.takeWhile_append_of_pos single]
  simp

/-- The line of a shorthand has the keyword that stands for it. Any other line has the keyword that
decides about overriding. -/
theorem lineKeyword_of_line? (compiled : setting.line? item = some line) :
    lineKeyword line = if setting.isShorthand then jumpKeyword else setting.overrideKey := by
  obtain ⟨found, text, known, _, ⟨standing, rfl⟩ | ⟨standing, rfl⟩⟩ := line?_eq_some_iff.mp compiled
  · rw [lineKeyword_append (Keyword.visible_name known)]
    simp [isShorthand, overrideKey, Keyword.overrideKey, known, standing]
  · rw [String.append_assoc, String.append_assoc, lineKeyword_append visible_jumpKeyword]
    simp [isShorthand, known, standing]

/-- All shorthands decide about overriding by one key. -/
theorem overrideKey_of_shorthand (short : setting.isShorthand) :
    setting.overrideKey = "ViaProxy" := by
  obtain ⟨found, known, standing⟩ := Option.any_eq_true _ _ |>.mp short
  rw [overrideKey, Keyword.overrideKey, known]
  exact Keyword.name_of_shorthand found (Keyword.mem_table_of_find? known)
    (of_decide_eq_true standing)

end HostTree.Setting
