/-
This file shows that the spelling of an option name does not matter for its setting.
-/

import HostTree.Proofs.Declaration.Reading
import HostTree.Proofs.Setting.Layering
import HostTree.Proofs.Setting.Line
import Mathlib.Data.List.Forall2

namespace HostTree

namespace Keyword

/-- The table spells both names, and they stand for the same keyword. -/
def Synonyms (name other : String) : Prop :=
  ∃ found otherFound, find? name = some found ∧ find? other = some otherFound ∧
    otherFound.name = found.name

/-- No row spells a key that is not an option. -/
theorem spelling_notMem_reserved : ∀ row ∈ table.toList, row.spelling ∉ Role.reserved := by
  decide +kernel

end Keyword

/-- A key that the keyword table spells is the key of a setting. -/
theorem Role.ofKey_of_find? {key : String} {found : Keyword}
    (known : Keyword.find? key = some found) : ofKey key = .setting := by
  have spelled : found.spelling = Text.foldCase key := (Keyword.of_searchBetween known).2
  apply ofKey_of_notMem_reserved
  rw [← spelled]
  exact Keyword.spelling_notMem_reserved found (Keyword.mem_table_of_find? known)

theorem Keyword.Synonyms.role {name other : String} (synonyms : Synonyms name other) :
    Role.ofKey name = .setting ∧ Role.ofKey other = .setting := by
  obtain ⟨found, otherFound, known, otherKnown, _⟩ := synonyms
  exact ⟨Role.ofKey_of_find? known, Role.ofKey_of_find? otherKnown⟩

namespace Setting

/-- The other setting has the same content under the same name or under another name of its
keyword. -/
structure Synonymous (setting other : Setting) : Prop where
  content : other.content = setting.content
  name : other.name = setting.name ∨ Keyword.Synonyms setting.name other.name

theorem Synonymous.refl (setting : Setting) : setting.Synonymous setting :=
  ⟨rfl, .inl rfl⟩

theorem synonymous_self (settings : List Setting) :
    List.Forall₂ Synonymous settings settings :=
  List.forall₂_same.mpr fun setting _ => .refl setting

namespace Synonymous

variable {setting other : Setting}

/-- Synonymous settings have the same key. -/
theorem overrideKey (synonymous : setting.Synonymous other) :
    other.overrideKey = setting.overrideKey := by
  rw [Setting.overrideKey, Setting.overrideKey]
  obtain same | ⟨found, otherFound, known, otherKnown, same⟩ := synonymous.name
  · rw [same]
  · rw [Keyword.overrideKey, Keyword.overrideKey, known, otherKnown]
    exact same

/-- Synonymous settings come to the same line, warning or failure. -/
theorem compile (synonymous : setting.Synonymous other) (item : Option Value) :
    other.compile item = setting.compile item := by
  obtain same | ⟨found, otherFound, known, otherKnown, same⟩ := synonymous.name
  · cases setting
    cases other
    cases same
    cases synonymous.content
    rfl
  · have standing : otherFound.standing = found.standing :=
      Keyword.standing_eq_of_name (Keyword.mem_table_of_find? known)
        (Keyword.mem_table_of_find? otherKnown) same
    rw [compile_of_known known, compile_of_known otherKnown, synonymous.content, standing, same]

end Synonymous

variable {inherited otherInherited own otherOwn : List Setting}

/-- Synonymous settings override each other alike. -/
theorem overlay_synonymous (inheritedAlike : List.Forall₂ Synonymous inherited otherInherited)
    (ownAlike : List.Forall₂ Synonymous own otherOwn) :
    List.Forall₂ Synonymous (overlay inherited own) (overlay otherInherited otherOwn) := by
  have keys : otherOwn.map overrideKey = own.map overrideKey := by
    induction ownAlike with
    | nil => rfl
    | cons alike _ ih => rw [List.map_cons, List.map_cons, alike.overrideKey, ih]
  have asKeys (settings : List Setting) (key : String) :
      (settings.all fun other => other.overrideKey != key) =
        (settings.map overrideKey).all (· != key) := by
    rw [List.all_map, Function.comp_def]
  rw [overlay_eq_append, overlay_eq_append]
  apply List.rel_append
  · apply List.rel_filter _ inheritedAlike
    intro setting other alike
    dsimp only
    rw [asKeys, asKeys, keys, alike.overrideKey]
  · exact ownAlike

end Setting
end HostTree
