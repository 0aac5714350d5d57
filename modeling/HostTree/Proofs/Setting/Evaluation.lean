/-
This file describes what a list of settings comes to with a loop item.
-/

import HostTree.Setting

namespace HostTree.Setting

/-- The failure of the setting, if it has one. -/
def failure? (item : Option Value) (setting : Setting) : Option Failure :=
  match setting.compile item with
  | .ok _ => none
  | .error failure => some failure

/-- The line of the setting, if it gets one. -/
def line? (item : Option Value) (setting : Setting) : Option String :=
  match setting.compile item with
  | .ok (.line text) => some text
  | _ => none

/-- The warning of the setting if it is left out. -/
def warning? (item : Option Value) (setting : Setting) : Option Warning :=
  match setting.compile item with
  | .ok (.dropped warning) => some warning
  | _ => none

/-- The first failure is the one that the node is reported with. -/
def firstFailure? (item : Option Value) (settings : List Setting) : Option Failure :=
  settings.findSome? (failure? item)

/-- The lines stand in the order of the settings. -/
def lines (item : Option Value) (settings : List Setting) : List String :=
  settings.filterMap (line? item)

/-- The settings after the first failure are not reached and warn of nothing. -/
def warnings (item : Option Value) (settings : List Setting) : List Warning :=
  (settings.takeWhile fun setting => (setting.failure? item).isNone).filterMap (warning? item)

variable {item : Option Value} {setting : Setting} {rest : List Setting}

theorem firstFailure?_cons :
    firstFailure? item (setting :: rest) =
      (setting.failure? item).or (firstFailure? item rest) := by
  rw [firstFailure?, List.findSome?_cons]
  cases setting.failure? item <;> rfl

theorem lines_cons : lines item (setting :: rest) =
    (setting.line? item).toList ++ lines item rest := by
  rw [lines, List.filterMap_cons]
  cases setting.line? item <;> rfl

/-- A setting that fails does not warn. -/
theorem warning?_of_failure {failure : Failure}
    (failed : setting.failure? item = some failure) : setting.warning? item = none := by
  unfold failure? at failed
  unfold warning?
  cases compiled : setting.compile item <;> simp_all

/-- Nothing is warned of if the first setting fails. -/
theorem warnings_cons_of_failure {failure : Failure}
    (failed : setting.failure? item = some failure) : warnings item (setting :: rest) = [] := by
  rw [warnings, List.takeWhile_cons_of_neg (by simp [failed]), List.filterMap_nil]

/-- The warning of a setting that does not fail comes before those of the rest. -/
theorem warnings_cons_of_success (passed : setting.failure? item = none) :
    warnings item (setting :: rest) = (setting.warning? item).toList ++ warnings item rest := by
  rw [warnings, List.takeWhile_cons_of_pos (by simp [passed]), List.filterMap_cons]
  cases setting.warning? item <;> rfl

end HostTree.Setting
