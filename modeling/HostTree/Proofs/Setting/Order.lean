/-
This file shows that the order of settings matters for the order of their warnings only.
-/

import HostTree.Proofs.Declaration.Reading
import HostTree.Proofs.Setting.Evaluation
import HostTree.Proofs.Setting.Layering
import HostTree.Store
import Mathlib.Data.List.TakeWhile

namespace HostTree.Setting

/-- The settings change their order as the entries do. -/
theorem ofEntries_perm {entries permuted : List (String × Value)} (perm : entries.Perm permuted) :
    (ofEntries entries).Perm (ofEntries permuted) :=
  perm.filterMap _

/-- The order of the settings does not decide about overriding. -/
theorem overlay_perm {inherited otherInherited own otherOwn : List Setting}
    (inheritedPerm : inherited.Perm otherInherited) (ownPerm : own.Perm otherOwn) :
    (overlay inherited own).Perm (overlay otherInherited otherOwn) := by
  have sameTest (setting : Setting) :
      (own.all fun other => other.overrideKey != setting.overrideKey) =
        otherOwn.all fun other => other.overrideKey != setting.overrideKey :=
    ownPerm.all_eq
  rw [overlay_eq_append, overlay_eq_append, kept, kept, funext sameTest]
  exact (inheritedPerm.filter _).append ownPerm

variable {settings permuted : List Setting}

/-- The order decides only which failure comes first, not whether there is one. -/
theorem isSome_firstFailure?_perm (perm : settings.Perm permuted) (item : Option Value) :
    (firstFailure? item settings).isSome = (firstFailure? item permuted).isSome := by
  rw [firstFailure?, firstFailure?, List.isSome_findSome?, List.isSome_findSome?]
  exact perm.any_eq

/-- The lines are the same in any order of the settings. -/
theorem lineSet_perm (perm : settings.Perm permuted) (item : Option Value) :
    (Std.ExtTreeSet.ofList (lines item settings) : LineSet) =
      .ofList (lines item permuted) := by
  apply Std.ExtTreeSet.ext_mem
  intro line
  have same : line ∈ lines item settings ↔ line ∈ lines item permuted :=
    (perm.filterMap (line? item)).mem_iff
  rw [Std.ExtTreeSet.mem_ofList, Std.ExtTreeSet.mem_ofList]
  simpa using same

/-- Without a failure all settings are reached. -/
theorem warnings_of_success {item : Option Value} (passed : firstFailure? item settings = none) :
    warnings item settings = settings.filterMap (warning? item) := by
  rw [warnings, List.takeWhile_eq_self_iff.mpr]
  intro setting among
  simp [List.findSome?_eq_none_iff.mp passed setting among]

/-- If no setting fails, then the warnings change their order as the settings do. -/
theorem warnings_perm {item : Option Value} (perm : settings.Perm permuted)
    (passed : firstFailure? item settings = none) :
    (warnings item settings).Perm (warnings item permuted) := by
  have otherPassed : firstFailure? item permuted = none := by
    rw [← Option.isNone_iff_eq_none, ← Option.not_isSome, ← isSome_firstFailure?_perm perm, passed]
    rfl
  rw [warnings_of_success passed, warnings_of_success otherPassed]
  exact perm.filterMap _

end HostTree.Setting
