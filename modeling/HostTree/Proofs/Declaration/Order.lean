/-
This file shows that the order of the entries of a node does not matter for its reading.
-/

import HostTree.Proofs.Declaration.Change

namespace HostTree

/-- Flags and loops have a single key. -/
def Role.key? : Role → Option String
  | «hiding» => some "hide"
  | naming => some "prefix"
  | sharing => some "inherit"
  | looping => some "with_items"
  | _ => none

/-- Some roles have a single key. -/
theorem Role.eq_of_key? {key name : String} (single : (ofKey key).key? = some name) :
    key = name := by
  unfold ofKey at single
  grind [key?]

theorem perm_eq_of_length_le_one {Content : Type} {first second : List Content}
    (perm : first.Perm second) (short : first.length ≤ 1) : first = second := by
  match first, short with
  | [], _ => exact (List.nil_perm.mp perm).symm
  | [content], _ => exact (List.singleton_perm.mp perm)

/-- A fold that fails after its first step has at most one step. -/
theorem length_le_one_of_foldlM {Flaw Held Content : Type}
    {step : Held → Content → Except Flaw Held}
    (once : ∀ held content next, step held content = .ok next →
      ∀ other, ∃ flaw, step next other = .error flaw)
    {contents : List Content} {held last : Held} (success : contents.foldlM step held = .ok last) :
    contents.length ≤ 1 := by
  match contents with
  | [] => exact Nat.zero_le 1
  | [_] => exact Nat.le_refl 1
  | first :: second :: rest =>
    rw [List.foldlM_cons] at success
    cases now : step held first with
    | error flaw =>
      rw [now] at success
      cases success
    | ok next =>
      obtain ⟨flaw, refused⟩ := once held first next now second
      rw [now] at success
      change List.foldlM step next (second :: rest) = _ at success
      rw [List.foldlM_cons, refused] at success
      cases success

namespace Entries

variable {entries permuted : List (String × Value)}

/-- With distinct keys a role with a single key has at most one entry. -/
theorem length_ofRole_le_one {role : Role} {name : String} (single : role.key? = some name)
    (distinct : Distinct entries) : (ofRole role entries).length ≤ 1 := by
  have keys : ∀ entry ∈ ofRole role entries, entry.1 = name := by
    intro entry among
    have same : Role.ofKey entry.1 = role := by simpa using (List.mem_filter.mp among).2
    exact Role.eq_of_key? (by rw [same, single])
  have nodup : ((ofRole role entries).map Prod.fst).Nodup :=
    List.Nodup.sublist (List.Sublist.map Prod.fst List.filter_sublist) distinct
  revert keys nodup
  generalize ofRole role entries = found
  intro keys nodup
  match found with
  | [] => exact Nat.zero_le 1
  | [_] => exact Nat.le_refl 1
  | first :: second :: rest =>
    have equal : first.1 = second.1 := by
      rw [keys first (by simp), keys second (by simp)]
    simp [equal] at nodup

/-- The entries of a role change their order as all entries do. -/
theorem ofRole_perm (perm : entries.Perm permuted) (role : Role) :
    (ofRole role entries).Perm (ofRole role permuted) :=
  perm.filter _

/-- A role with a single key has the same entries in any order. -/
theorem ofRole_eq_of_perm (perm : entries.Perm permuted) (distinct : Distinct entries)
    {role : Role} {name : String} (single : role.key? = some name) :
    ofRole role permuted = ofRole role entries :=
  (perm_eq_of_length_le_one (ofRole_perm perm role) (length_ofRole_le_one single distinct)).symm

end Entries

namespace Declaration

variable {entries permuted : List (String × Value)}

/-- A second pattern is refused. -/
theorem length_le_one_of_readNaming {held last : BlockKind × Option String}
    {patterns : List (BlockKind × Value)} (success : readNaming held patterns = .ok last) :
    patterns.length ≤ 1 := by
  apply length_le_one_of_foldlM _ success
  intro held pattern next taken other
  have full : next.2.isSome := by
    split at taken
    · cases taken
    · obtain ⟨text, _, rfl⟩ := Except.exists_of_map_eq_ok taken
      rfl
  rw [if_pos full]
  exact ⟨_, rfl⟩

/-- If a node can be named, then its only pattern is the same in any order. -/
theorem patterns_eq_of_perm (perm : entries.Perm permuted)
    {held last : BlockKind × Option String}
    (success : readNaming held (Entries.patterns entries) = .ok last) :
    Entries.patterns permuted = Entries.patterns entries :=
  (perm_eq_of_length_le_one (perm.filterMap _) (length_le_one_of_readNaming success)).symm

/-- A second key for children is refused. -/
theorem length_le_one_of_readFamily {held last : List Child × Option String}
    {found : List (String × Value)} (success : readFamily held found = .ok last) :
    found.length ≤ 1 := by
  apply length_le_one_of_foldlM _ success
  intro held entry next taken other
  have full : ∃ key, next.2 = some key := by
    split at taken
    · cases taken
    · obtain ⟨children, _, rfl⟩ := Except.exists_of_map_eq_ok taken
      exact ⟨entry.1, rfl⟩
  obtain ⟨key, full⟩ := full
  rw [full]
  exact ⟨_, rfl⟩

/-- If the children can be read, then their only entry is the same in any order. -/
theorem ofRole_children_eq_of_perm (perm : entries.Perm permuted)
    {held last : List Child × Option String}
    (success : readFamily held (Entries.ofRole .children entries) = .ok last) :
    Entries.ofRole .children permuted = Entries.ofRole .children entries :=
  (perm_eq_of_length_le_one (Entries.ofRole_perm perm .children)
    (length_le_one_of_readFamily success)).symm

/-- With distinct keys the order of the entries shows in the order of the settings only. -/
theorem ofEntries_of_perm (perm : entries.Perm permuted) (distinct : Entries.Distinct entries)
    {declaration : Declaration} (read : ofEntries entries = .ok declaration) :
    ofEntries permuted =
      .ok (declaration.adjust id (fun _ => Setting.ofEntries permuted) id) := by
  obtain ⟨childrenKey, parts⟩ := ofEntries_eq_ok_iff.mp read
  apply ofEntries_eq_ok_iff.mpr
  refine ⟨childrenKey, ?_⟩
  constructor
  case hidden =>
    rw [Entries.ofRole_eq_of_perm perm distinct rfl]
    exact parts.hidden
  case namesChildren =>
    rw [Entries.ofRole_eq_of_perm perm distinct rfl]
    exact parts.namesChildren
  case sharesSettings =>
    rw [Entries.ofRole_eq_of_perm perm distinct rfl]
    exact parts.sharesSettings
  case loop =>
    rw [Entries.ofRole_eq_of_perm perm distinct rfl]
    exact parts.loop
  case pattern =>
    rw [patterns_eq_of_perm perm parts.pattern]
    exact parts.pattern
  case settings => rfl
  case children =>
    rw [ofRole_children_eq_of_perm perm parts.children]
    exact parts.children

end Declaration
end HostTree
