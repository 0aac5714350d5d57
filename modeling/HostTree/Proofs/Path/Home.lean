/-
This file shows that a tilde at the beginning of a path stands for the home directory, and that
nothing behind it leads elsewhere. Only separators, points and tildes are told apart from the other
characters of a path, so that it does not matter whether these stand for letters or for octets.
-/

import HostTree.Proofs.Path.Component

namespace HostTree.Path

variable {path : List Char} {rest parts : List (List Char)}

/-- A path that begins with a tilde has the tilde as its first component. -/
theorem components_of_tilde (split : segments path = ['~'] :: rest) :
    components path = .named ['~'] :: bodyComponents rest := by
  have present : path ≠ [] := by
    rintro rfl
    cases split
  rw [components_eq_opening_cons split present, opening_eq_tilde_iff.mpr rfl]

/-- The first component is the tilde exactly when the first segment is. -/
theorem head?_components_eq_tilde_iff :
    (components path).head? = some (.named ['~']) ↔ ∃ rest, segments path = ['~'] :: rest := by
  constructor
  · intro tilde
    have present : path ≠ [] := by
      rintro rfl
      cases tilde
    obtain ⟨first, body, split⟩ := List.exists_cons_of_ne_nil (segments_ne_nil path)
    rw [components_eq_opening_cons split present, List.head?_cons, Option.some_inj,
      opening_eq_tilde_iff] at tilde
    exact ⟨body, tilde ▸ split⟩
  · rintro ⟨rest, split⟩
    rw [components_of_tilde split, List.head?_cons]

/-- The tilde is the first component only where it is the whole path or a separator follows. -/
theorem segments_eq_tilde_cons_iff :
    (∃ rest, segments path = ['~'] :: rest) ↔ path = ['~'] ∨ ['~', '/'] <+: path := by
  constructor
  · rintro ⟨rest, split⟩
    obtain ⟨_, same⟩ | ⟨_, same⟩ := eq_append_of_segments split
    · exact .inl same
    · exact .inr ⟨ofSegments rest, same.symm⟩
  · rintro (rfl | ⟨rest, rfl⟩)
    · exact ⟨[], rfl⟩
    · exact ⟨segments rest, segments_append ['~'] rest⟩

/-- These are the parts of the path behind the tilde that are put behind the home directory. -/
def trimIdle (parts : List (List Char)) : List (List Char) :=
  (dropIdleEnd parts).dropWhile isIdle

theorem mem_of_mem_trimIdle {part : List Char} (among : part ∈ trimIdle parts) : part ∈ parts := by
  have kept : part ∈ dropIdleEnd parts := (List.dropWhile_suffix _).subset among
  rw [dropIdleEnd, List.mem_reverse] at kept
  exact List.mem_reverse.mp ((List.dropWhile_suffix _).subset kept)

/-- Trimming takes away only segments without a component. -/
theorem bodyComponents_trimIdle (parts : List (List Char)) :
    bodyComponents (trimIdle parts) = bodyComponents parts := by
  rw [trimIdle, bodyComponents_dropWhile_isIdle, bodyComponents_dropIdleEnd]

section Whole

variable (whole : ∀ part ∈ parts, '/' ∉ part)
include whole

/-- No empty part is left at the beginning, where it would make the text begin with a separator. -/
theorem isAbsolute_trimIdle : isAbsolute (ofSegments (trimIdle parts)) = false := by
  cases trimmed : trimIdle parts with
  | nil => rfl
  | cons first others =>
    have some : trimIdle parts ≠ [] := trimmed ▸ List.cons_ne_nil first others
    have busy : isIdle ((trimIdle parts).head some) = false := List.head_dropWhile_not isIdle some
    simp only [trimmed, List.head_cons] at busy
    have split : segments (ofSegments (first :: others)) = first :: others :=
      segments_ofSegments (List.cons_ne_nil _ _) fun part among =>
        whole part (mem_of_mem_trimIdle (trimmed ▸ among))
    rw [Bool.eq_false_iff]
    intro absolute
    rw [eq_nil_of_isAbsolute absolute split] at busy
    cases busy

/-- The trimmed rest is read back as its components. -/
theorem bodyComponents_segments_trimIdle :
    bodyComponents (segments (ofSegments (trimIdle parts))) = bodyComponents parts := by
  rw [← bodyComponents_trimIdle parts]
  by_cases present : trimIdle parts = []
  · rw [present]
    rfl
  · rw [segments_ofSegments present fun part among => whole part (mem_of_mem_trimIdle among)]

end Whole

section Expansion

variable {path home : String}

/-- The rest behind the tilde is joined to the home directory. -/
theorem toList_expandHome_of_tilde (split : segments path.toList = ['~'] :: rest) :
    (expandHome path home).toList = join home.toList (ofSegments (trimIdle rest)) := by
  rw [expandHome, split]
  exact String.toList_ofList

/-- Any other path stays as it is. -/
theorem expandHome_of_other (other : ¬ ∃ rest, segments path.toList = ['~'] :: rest) :
    expandHome path home = path := by
  unfold expandHome
  split
  · next rest split => exact absurd ⟨rest, split⟩ other
  · rfl

theorem whole_of_tilde (split : segments path.toList = ['~'] :: rest) :
    ∀ part ∈ rest, '/' ∉ part := fun _ among =>
  separator_notMem_segment (split ▸ List.mem_cons_of_mem _ among)

/-- The components of the home directory take the place of the tilde. -/
theorem components_expandHome (present : home.toList ≠ [])
    (split : segments path.toList = ['~'] :: rest) :
    components (expandHome path home).toList = components home.toList ++ bodyComponents rest := by
  have whole := whole_of_tilde split
  rw [toList_expandHome_of_tilde split, components_join present (isAbsolute_trimIdle whole),
    bodyComponents_segments_trimIdle whole]

/-- The expanded path begins with the home directory. -/
theorem prefix_expandHome (split : segments path.toList = ['~'] :: rest) :
    home.toList <+: (expandHome path home).toList := by
  rw [toList_expandHome_of_tilde split]
  exact prefix_join (isAbsolute_trimIdle (whole_of_tilde split))

/-- The first component of a path is a tilde exactly when the path is a tilde or begins with a tilde
and a separator. Then the home directory takes the place of the tilde, and the other components stay
behind it, however the path is written. Any other path stays as it is. So a second expansion changes
nothing. -/
theorem expansion_stays_under_home {home : String} (absolute : isAbsolute home.toList)
    (path : String) :
    ((components path.toList).head? = some (.named ['~']) ↔
      path = "~" ∨ ['~', '/'] <+: path.toList) ∧
    (∀ others, components path.toList = .named ['~'] :: others →
      components (expandHome path home).toList = components home.toList ++ others ∧
        home.toList <+: (expandHome path home).toList) ∧
    ((components path.toList).head? ≠ some (.named ['~']) → expandHome path home = path) ∧
    expandHome (expandHome path home) home = expandHome path home := by
  have root : (components home.toList).head? = some .root := isAbsolute_iff.mp absolute
  have present : home.toList ≠ [] := by
    intro nothing
    rw [nothing] at absolute
    cases absolute
  have stays {other : String} (differs : (components other.toList).head? ≠ some (.named ['~'])) :
      expandHome other home = other :=
    expandHome_of_other (differs ∘ head?_components_eq_tilde_iff.mpr)
  refine ⟨?_, ?_, stays, ?_⟩
  · rw [head?_components_eq_tilde_iff, segments_eq_tilde_cons_iff, ← String.toList_inj]
    rfl
  · intro others tilde
    obtain ⟨rest, split⟩ := head?_components_eq_tilde_iff.mp (by rw [tilde, List.head?_cons])
    obtain rfl : bodyComponents rest = others :=
      (List.cons.inj ((components_of_tilde split).symm.trans tilde)).2
    exact ⟨components_expandHome present split, prefix_expandHome split⟩
  · by_cases tilde : ∃ rest, segments path.toList = ['~'] :: rest
    · obtain ⟨rest, split⟩ := tilde
      -- The expanded path begins with the root, and so with no tilde.
      apply stays
      rw [components_expandHome present split, List.head?_append, root]
      simp
    · rw [expandHome_of_other tilde, expandHome_of_other tilde]

/-- Another separator behind the tilde does not make the rest of the path absolute. -/
theorem expansion_stays_under_home_separators :
    isAbsolute "/home/user".toList ∧
      components "~//etc/./../x/".toList =
        [.named ['~'], .named ['e', 't', 'c'], .above, .named ['x']] ∧
      components (expandHome "~//etc/./../x/" "/home/user").toList =
        components "/home/user".toList ++ [.named ['e', 't', 'c'], .above, .named ['x']] := by
  have absolute : isAbsolute "/home/user".toList := by decide +kernel
  have written : components "~//etc/./../x/".toList =
      [.named ['~'], .named ['e', 't', 'c'], .above, .named ['x']] := by decide +kernel
  exact ⟨absolute, written, ((expansion_stays_under_home absolute _).2.1 _ written).1⟩

end Expansion

end HostTree.Path
