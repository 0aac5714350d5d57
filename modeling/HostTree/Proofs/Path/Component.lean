/-
This file shows which components a path has that is put behind another one.
-/

import HostTree.Path
import Mathlib.Data.List.TakeWhile

namespace HostTree.Path

/-- The segments are what the separators leave of the path. -/
theorem segments_eq_splitOn (path : List Char) : segments path = path.splitOn '/' := by
  fun_induction segments path with
  | case1 => rfl
  | case2 rest ih => rw [List.splitOn_cons_eq_if_modifyHead, if_pos (by rfl), ih]
  | case3 character rest other first others split ih =>
    rw [List.splitOn_cons_eq_if_modifyHead, if_neg (by simpa using other), ← ih, split]
    rfl
  | case4 character rest other split ih => exact absurd (ih ▸ split) (List.splitOn_ne_nil _ _)

/-- Even the empty path has a segment. -/
theorem segments_ne_nil (path : List Char) : segments path ≠ [] := by
  rw [segments_eq_splitOn]
  exact List.splitOn_ne_nil _ _

/-- A separator between two paths keeps their segments apart. -/
theorem segments_append (base path : List Char) :
    segments (base ++ '/' :: path) = segments base ++ segments path := by
  simp only [segments_eq_splitOn, List.splitOn_append_cons_self]

/-- The path comes back from its segments. -/
theorem ofSegments_segments (path : List Char) : ofSegments (segments path) = path := by
  rw [ofSegments, segments_eq_splitOn, List.intercalate_splitOn]

/-- Segments without a separator come back from their path. -/
theorem segments_ofSegments {parts : List (List Char)} (present : parts ≠ [])
    (whole : ∀ part ∈ parts, '/' ∉ part) : segments (ofSegments parts) = parts := by
  rw [ofSegments, segments_eq_splitOn, List.splitOn_intercalate _ whole present]

/-- No segment holds a separator. -/
theorem separator_notMem_segment {path segment : List Char} (among : segment ∈ segments path) :
    '/' ∉ segment := by
  fun_induction segments path generalizing segment with
  | case1 => simp_all
  | case2 rest ih =>
    obtain rfl | later := List.mem_cons.mp among
    · exact List.not_mem_nil
    · exact ih later
  | case3 character rest other first others split ih =>
    rw [split] at ih
    obtain rfl | later := List.mem_cons.mp among
    · rw [List.mem_cons, not_or]
      exact ⟨fun same => other same.symm, ih List.mem_cons_self⟩
    · exact ih (List.mem_cons_of_mem _ later)
  | case4 character rest other split ih => exact absurd split (segments_ne_nil rest)

section Body

variable (parts : List (List Char))

/-- The components of a list of segments are found segment by segment. -/
theorem bodyComponents_append (others : List (List Char)) :
    bodyComponents (parts ++ others) = bodyComponents parts ++ bodyComponents others := by
  rw [bodyComponents, List.filter_append, List.map_append]
  rfl

theorem bodyComponents_reverse :
    bodyComponents parts.reverse = (bodyComponents parts).reverse := by
  rw [bodyComponents, List.filter_reverse, List.map_reverse]
  rfl

/-- Idle segments at the beginning give no component. -/
theorem bodyComponents_dropWhile_isIdle :
    bodyComponents (parts.dropWhile isIdle) = bodyComponents parts := by
  have nothing : bodyComponents (parts.takeWhile isIdle) = [] := by
    rw [bodyComponents, List.map_eq_nil_iff, List.filter_eq_nil_iff]
    intro segment among
    simpa using List.mem_takeWhile_imp among
  calc bodyComponents (parts.dropWhile isIdle)
    _ = bodyComponents (parts.takeWhile isIdle ++ parts.dropWhile isIdle) := by
      rw [bodyComponents_append, nothing, List.nil_append]
    _ = bodyComponents parts := by rw [List.takeWhile_append_dropWhile]

/-- Idle segments at the end give no component. -/
theorem bodyComponents_dropIdleEnd :
    bodyComponents (dropIdleEnd parts) = bodyComponents parts := by
  rw [dropIdleEnd, bodyComponents_reverse, bodyComponents_dropWhile_isIdle, bodyComponents_reverse,
    List.reverse_reverse]

end Body

variable {path base first : List Char} {body : List (List Char)}

/-- The path is its first segment alone or with a separator and the rest behind it. -/
theorem eq_append_of_segments (split : segments path = first :: body) :
    body = [] ∧ path = first ∨ body ≠ [] ∧ path = first ++ '/' :: ofSegments body := by
  rw [← ofSegments_segments path, split]
  cases body with
  | nil => exact .inl ⟨rfl, by simp [ofSegments]⟩
  | cons second others =>
    exact .inr ⟨List.cons_ne_nil _ _, by simp [ofSegments, List.intercalate]⟩

/-- The first segment tells where a path begins. -/
def opening (first : List Char) : Component :=
  if first = [] then .root
  else if first = ['.'] then .current
  else componentOf first

/-- Only an empty first segment stands for the root. -/
theorem opening_eq_root_iff : opening first = .root ↔ first = [] := by
  unfold opening componentOf
  split_ifs <;> simp_all

/-- Only a lone tilde as the first segment stands for the home directory. -/
theorem opening_eq_tilde_iff : opening first = .named ['~'] ↔ first = ['~'] := by
  unfold opening componentOf
  split_ifs <;> simp_all

/-- The first segment gives a component of its own, whatever it is. -/
theorem components_eq_opening_cons (split : segments path = first :: body) (present : path ≠ []) :
    components path = opening first :: bodyComponents body := by
  unfold components opening
  rw [split]
  dsimp only
  split_ifs with root empty current
  · rcases eq_append_of_segments split with ⟨_, same⟩ | ⟨more, _⟩
    · exact absurd (same.trans root) present
    · exact absurd (List.isEmpty_iff.mp empty) more
  · rfl
  · rfl
  · have busy : isIdle first = false := by simp [isIdle, root, current]
    rw [bodyComponents, List.filter_cons_of_pos (by simpa using busy), List.map_cons]
    rfl

theorem bodyComponents_segments_nil : bodyComponents (segments []) = [] := rfl

/-- The components of a path behind a separator follow those of the base. -/
theorem components_append_of_segments (split : segments base = first :: body) (path : List Char) :
    components (base ++ '/' :: path) =
      opening first :: bodyComponents body ++ bodyComponents (segments path) := by
  have whole : segments (base ++ '/' :: path) = first :: (body ++ segments path) := by
    rw [segments_append, split, List.cons_append]
  rw [components_eq_opening_cons whole (by simp), bodyComponents_append, List.cons_append]

/-- What follows a separator has neither a root nor a point at its beginning. -/
theorem components_append (base path : List Char) :
    components (base ++ '/' :: path) =
      components (base ++ ['/']) ++ bodyComponents (segments path) := by
  obtain ⟨first, body, split⟩ := List.exists_cons_of_ne_nil (segments_ne_nil base)
  rw [components_append_of_segments split path, components_append_of_segments split [],
    bodyComponents_segments_nil, List.append_nil]

/-- A separator at the end leads nowhere. -/
theorem components_concat_separator (present : base ≠ []) :
    components (base ++ ['/']) = components base := by
  obtain ⟨first, body, split⟩ := List.exists_cons_of_ne_nil (segments_ne_nil base)
  rw [components_append_of_segments split [], components_eq_opening_cons split present,
    bodyComponents_segments_nil, List.append_nil]

/-- Joining a relative path puts its components behind those of the base. -/
theorem components_join (present : base ≠ []) (relative : isAbsolute path = false) :
    components (join base path) = components base ++ bodyComponents (segments path) := by
  rw [join, if_neg (Bool.eq_false_iff.mp relative)]
  split_ifs with ended
  · have last : base.getLast? = some '/' := by simpa [present] using ended
    obtain ⟨front, rfl⟩ := List.getLast?_eq_some_iff.mp last
    rw [List.append_assoc, List.singleton_append, components_append]
  · rw [components_append, components_concat_separator present]

theorem eq_nil_of_isAbsolute (absolute : isAbsolute path) (split : segments path = first :: body) :
    first = [] := by
  cases path with
  | nil => cases absolute
  | cons character rest =>
    obtain rfl : character = '/' := by simpa [isAbsolute] using absolute
    exact (List.cons.inj split).1.symm

/-- A path is absolute exactly when its first component is the root. -/
theorem isAbsolute_iff : isAbsolute path ↔ (components path).head? = some .root := by
  by_cases present : path = []
  · rw [present]
    decide
  · obtain ⟨first, body, split⟩ := List.exists_cons_of_ne_nil (segments_ne_nil path)
    rw [components_eq_opening_cons split present, List.head?_cons, Option.some_inj,
      opening_eq_root_iff]
    constructor
    · exact fun absolute => eq_nil_of_isAbsolute absolute split
    · rintro rfl
      rcases eq_append_of_segments split with ⟨_, same⟩ | ⟨_, same⟩
      · exact absurd same present
      · rw [same]
        rfl

/-- A joined path begins with its base. -/
theorem prefix_join (relative : isAbsolute path = false) : base <+: join base path := by
  rw [join, if_neg (Bool.eq_false_iff.mp relative)]
  split_ifs
  · exact List.prefix_append base path
  · exact List.prefix_append base ('/' :: path)

end HostTree.Path
