/-
This file shows that the settings that are left out of the configuration can be taken away.
-/

import HostTree.Proofs.Setting.Layering
import HostTree.Proofs.Setting.Line

namespace HostTree

/-- No lower case form is a capital letter. -/
theorem Text.isUpper_toLower (character : Char) : character.toLower.isUpper = false := by
  refine decide_eq_false ?_
  change ¬ (65 ≤ character.toLower.toNat ∧ character.toLower.toNat ≤ 90)
  by_cases upper : 65 ≤ character.toNat ∧ character.toNat ≤ 90
  · have lowered : character.toLower.toNat = (character.val + 32).toNat :=
      congrArg Char.toNat (dif_pos upper)
    have code : character.val.toNat = character.toNat := rfl
    rw [lowered, UInt32.toNat_add, code, show UInt32.toNat 32 = 32 from rfl]
    omega
  · rw [show character.toLower = character from dif_neg upper]
    exact upper

/-- A folded text has no capital letter. -/
theorem Text.any_isUpper_foldCase (text : String) :
    (foldCase text).toList.any Char.isUpper = false := by
  rw [foldCase, String.toList_map, List.any_map, List.any_eq_false]
  intro character _
  rw [Function.comp_apply, isUpper_toLower]
  exact Bool.false_ne_true

namespace Keyword

/-- A keyword that is left out is reported under the name that the configuration would have. -/
def notice? (keyword : Keyword) : Option Warning :=
  match keyword.standing with
  | .active => none
  | .deprecated => some (.deprecated keyword.name)
  | .ignored => some (.ignored keyword.name)
  | .shorthand => none

/-- The option name stands for a keyword that is left out. -/
def isDropped (name : String) : Bool :=
  (find? name).any fun found => found.notice?.isSome

/-- The standing decides whether a keyword is left out. -/
theorem isSome_notice?_congr {row other : Keyword} (same : row.standing = other.standing) :
    row.notice?.isSome = other.notice?.isSome := by
  unfold notice?
  rw [same]
  cases other.standing <;> rfl

/-- The names that are left out are not the names of other keywords. -/
theorem name_ne_of_dropped {row other : Keyword} (among : row ∈ table.toList)
    (noticed : row.notice?.isSome) (otherAmong : other ∈ table.toList)
    (silent : other.notice?.isSome = false) : row.name ≠ other.name := by
  intro same
  have alike := isSome_notice?_congr (standing_eq_of_name otherAmong among same)
  rw [noticed, silent] at alike
  cases alike

/-- The names that are left out have a capital letter. -/
theorem any_isUpper_of_dropped : ∀ row ∈ table.toList, row.notice?.isSome →
    row.name.toList.any Char.isUpper := by
  decide +kernel

/-- An option that is left out overrides only options that are left out. -/
theorem overrideKey_ne_of_dropped {name other : String} (dropped : isDropped name)
    (stays : isDropped other = false) : overrideKey name ≠ overrideKey other := by
  obtain ⟨row, known, noticed⟩ := Option.any_eq_true _ _ |>.mp dropped
  have present := mem_table_of_find? known
  have key : overrideKey name = row.name := by
    rw [overrideKey, known]
  rw [key, overrideKey]
  rw [isDropped] at stays
  cases otherKnown : find? other with
  | none =>
    -- An option that no row spells has its folded name as its key, which has no capital letter.
    intro same
    have capital := any_isUpper_of_dropped row present noticed
    rw [show row.name = Text.foldCase other from same, Text.any_isUpper_foldCase] at capital
    cases capital
  | some otherRow =>
    rw [otherKnown] at stays
    exact name_ne_of_dropped present noticed (mem_table_of_find? otherKnown) stays

end Keyword

namespace Setting

/-- The warning does not depend on the content. -/
def notice? (setting : Setting) : Option Warning :=
  (Keyword.find? setting.name).bind Keyword.notice?

def isDropped (setting : Setting) : Bool :=
  Keyword.isDropped setting.name

/-- The settings that are left out are taken away. -/
def pruned (settings : List Setting) : List Setting :=
  settings.filter fun setting => !setting.isDropped

variable {setting : Setting} {settings : List Setting} {item : Option Value}

/-- A setting is left out exactly if there is a warning for it. -/
theorem isDropped_eq (setting : Setting) : setting.isDropped = setting.notice?.isSome := by
  rw [isDropped, Keyword.isDropped, notice?]
  cases Keyword.find? setting.name <;> rfl

/-- A setting with a warning does nothing but warn. -/
theorem compile_of_notice? {warning : Warning} (noticed : setting.notice? = some warning)
    (item : Option Value) : setting.compile item = .ok (.dropped warning) := by
  obtain ⟨found, known, named⟩ := Option.bind_eq_some_iff.mp noticed
  rw [compile_of_known known]
  unfold Keyword.notice? at named
  cases standing : found.standing <;> rw [standing] at named <;> cases named <;> rfl

/-- The warning does not depend on the item, and no failure comes before it. -/
theorem warning?_eq_notice? (item : Option Value) (setting : Setting) :
    setting.warning? item = setting.notice? := by
  cases noticed : setting.notice? with
  | some warning =>
    have compiled := compile_of_notice? noticed item
    unfold warning?
    rw [compiled]
  | none =>
    unfold warning?
    cases known : Keyword.find? setting.name with
    | none => rw [compile_of_unknown known]
    | some found =>
      rw [compile_of_known known]
      rw [notice?, known, Option.bind_some, Keyword.notice?] at noticed
      cases standing : found.standing <;> rw [standing] at noticed
      case active | shorthand => cases Template.resolveValue setting.content item <;> rfl
      case deprecated | ignored => cases noticed

/-- A setting that is left out compiles to a warning, whatever its content is. -/
theorem compile_of_dropped (dropped : setting.isDropped) (item : Option Value) :
    ∃ warning, setting.compile item = .ok (.dropped warning) := by
  rw [isDropped_eq] at dropped
  obtain ⟨warning, noticed⟩ := Option.isSome_iff_exists.mp dropped
  exact ⟨warning, compile_of_notice? noticed item⟩

/-- A setting that is left out does not fail. -/
theorem failure?_of_dropped (dropped : setting.isDropped) (item : Option Value) :
    setting.failure? item = none := by
  obtain ⟨warning, compiled⟩ := compile_of_dropped dropped item
  unfold failure?
  rw [compiled]

/-- A setting that is left out has no line. -/
theorem line?_of_dropped (dropped : setting.isDropped) (item : Option Value) :
    setting.line? item = none := by
  obtain ⟨warning, compiled⟩ := compile_of_dropped dropped item
  unfold line?
  rw [compiled]

/-- The lines are the same without the settings that are left out. -/
theorem lines_pruned (item : Option Value) (settings : List Setting) :
    lines item (pruned settings) = lines item settings := by
  rw [lines, lines, pruned, List.filterMap_filter]
  apply List.filterMap_congr
  intro setting _
  cases dropped : setting.isDropped with
  | true => simp [line?_of_dropped dropped]
  | false => simp

/-- The first failure is the same without the settings that are left out. -/
theorem firstFailure?_pruned (item : Option Value) (settings : List Setting) :
    firstFailure? item (pruned settings) = firstFailure? item settings := by
  induction settings with
  | nil => rfl
  | cons setting rest ih =>
    rw [firstFailure?_cons, ← ih, pruned, List.filter_cons]
    cases dropped : setting.isDropped with
    | true =>
      rw [failure?_of_dropped dropped]
      rfl
    | false => exact firstFailure?_cons

/-- The settings that are not left out warn of nothing. -/
theorem warnings_pruned (item : Option Value) (settings : List Setting) :
    warnings item (pruned settings) = [] := by
  rw [warnings, List.filterMap_eq_nil_iff]
  intro setting reached
  have among := (List.takeWhile_sublist _).subset reached
  have stays : setting.isDropped = false := by simpa using (List.mem_filter.mp among).2
  rw [isDropped_eq] at stays
  rw [warning?_eq_notice?, ← Option.not_isSome_iff_eq_none, stays]
  exact Bool.false_ne_true

/-- What is left out does not decide about overriding the rest. -/
theorem overlay_pruned (inherited own : List Setting) :
    overlay (pruned inherited) (pruned own) = pruned (overlay inherited own) := by
  rw [overlay_eq_append, overlay_eq_append, kept, kept, pruned, pruned, pruned,
    List.filter_append, List.filter_filter, List.filter_filter]
  apply congrArg (· ++ _)
  apply List.filter_congr
  intro setting _
  cases dropped : setting.isDropped with
  | true => simp
  | false =>
    simp only [Bool.not_false, Bool.and_true, Bool.true_and]
    rw [Bool.eq_iff_iff, List.all_eq_true, List.all_eq_true]
    constructor
    -- The own settings that are left out override nothing that stays.
    · intro unlike other among
      cases otherDropped : other.isDropped with
      | true =>
        rw [bne_iff_ne]
        exact Keyword.overrideKey_ne_of_dropped otherDropped dropped
      | false => exact unlike other (List.mem_filter.mpr ⟨among, by simp [otherDropped]⟩)
    · exact fun unlike other among => unlike other (List.mem_filter.mp among).1

end Setting
end HostTree
