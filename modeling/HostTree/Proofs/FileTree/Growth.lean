/-
This file shows that making directories adds them where they were missing and changes nothing else.
-/

import HostTree.Proofs.FileTree.Writing
import HostTree.Proofs.Path.Component
import Mathlib.Data.List.DropRight
import Mathlib.Data.List.Induction

namespace HostTree

namespace Path

/-- One path is that of the other's parent, or of a parent of this parent. -/
inductive Above : List Char → List Char → Prop where
  | parent {path parent : List Char} (found : parent? path = some parent) : Above parent path
  | further {path parent ancestor : List Char} (found : parent? path = some parent)
    (above : Above ancestor parent) : Above ancestor path

end Path

namespace FileTree

variable {before middle after tree : FileTree} {paths : List Char → Prop} {location : Location}
  {path : List Char}

/-- Every directory is still one. -/
structure KeepsDirectories (before after : FileTree) : Prop where
  workingDirectory : after.workingDirectory = before.workingDirectory
  kept : ∀ location, (before.entry? location).any FileEntry.isDirectory →
    (after.entry? location).any FileEntry.isDirectory

/-- A directory that could be entered still can be. -/
theorem KeepsDirectories.enter (keeps : KeepsDirectories before after) {segment : List Char}
    {next : Location} (entered : before.enter location segment = some next) :
    after.enter location segment = some next := by
  unfold FileTree.enter at entered ⊢
  split at entered
  · cases entered
  · next blocked =>
    have directory := keeps.kept location (by simpa using blocked)
    rwa [if_neg (by simpa using directory)]

/-- A path that led through directories still leads to the same place. -/
theorem KeepsDirectories.follow (keeps : KeepsDirectories before after) {start : Location}
    {parts : List (List Char)} (found : before.follow start parts = some location) :
    after.follow start parts = some location := by
  induction parts generalizing start with
  | nil => exact found
  | cons segment rest ih =>
    rw [FileTree.follow, List.foldlM_cons] at found ⊢
    obtain ⟨next, entered, followed⟩ := Option.bind_eq_some_iff.mp found
    exact Option.bind_eq_some_iff.mpr ⟨next, keeps.enter entered, ih followed⟩

/-- What a path leads to stays where it is. -/
theorem KeepsDirectories.locate (keeps : KeepsDirectories before after)
    (found : before.locate path = some location) : after.locate path = some location := by
  unfold FileTree.locate at found ⊢
  split at found
  · cases found
  · next written =>
    rw [if_neg written, keeps.workingDirectory]
    exact keeps.follow found

/-- The root is never missing. -/
theorem ne_root_of_missing (missing : tree.entry? location = none) : location ≠ [] := by
  rintro rfl
  cases missing

/-- A new directory takes no other directory away. -/
theorem keepsDirectories_put (missing : tree.entry? location = none) :
    KeepsDirectories tree (tree.put location .directory) where
  workingDirectory := rfl
  kept other directory := by
    by_cases same : other = location
    · rw [same, missing] at directory
      cases directory
    · rwa [entry_put_of_ne same]

/-- Nothing but missing directories was made, and some of the paths lead to them now. -/
structure Grows (paths : List Char → Prop) (before after : FileTree) : Prop where
  workingDirectory : after.workingDirectory = before.workingDirectory
  made : ∀ location, after.entry? location = before.entry? location ∨
    before.entry? location = none ∧ after.entry? location = some .directory ∧
      ∃ path, paths path ∧ after.locate path = some location

theorem Grows.refl (paths : List Char → Prop) (tree : FileTree) : Grows paths tree tree :=
  ⟨rfl, fun _ => .inl rfl⟩

/-- The paths of the new directories may be described less exactly. -/
theorem Grows.mono {others : List Char → Prop} (grows : Grows paths before after)
    (each : ∀ path, paths path → others path) : Grows others before after where
  workingDirectory := grows.workingDirectory
  made location := (grows.made location).imp_right fun ⟨missing, made, path, among, found⟩ =>
    ⟨missing, made, path, each path among, found⟩

/-- What grows loses no directory. -/
theorem Grows.keepsDirectories (grows : Grows paths before after) :
    KeepsDirectories before after where
  workingDirectory := grows.workingDirectory
  kept location directory := by
    rcases grows.made location with same | ⟨_, made, _⟩
    · rwa [same]
    · rw [made]
      rfl

/-- Trees grow step by step. -/
theorem Grows.trans (first : Grows paths before middle) (second : Grows paths middle after) :
    Grows paths before after where
  workingDirectory := second.workingDirectory.trans first.workingDirectory
  made location := by
    rcases second.made location with kept | ⟨missing, made, reached⟩
    · rcases first.made location with same | ⟨missing, made, path, among, found⟩
      · exact .inl (kept.trans same)
      · exact .inr
          ⟨missing, kept.trans made, path, among, second.keepsDirectories.locate found⟩
    · rcases first.made location with same | ⟨_, present, _⟩
      · exact .inr ⟨same ▸ missing, made, reached⟩
      · rw [present] at missing
        cases missing

/-- A separator behind a path to a directory leads to the same place. -/
theorem locate_concat_separator (found : tree.locate path = some location)
    (directory : tree.entry? location = some .directory) :
    tree.locate (path ++ ['/']) = some location := by
  cases path with
  | nil => cases found
  | cons first rest =>
    unfold FileTree.locate FileTree.follow at found ⊢
    rw [if_neg (by simp)] at found ⊢
    have absolute : Path.isAbsolute (first :: rest ++ ['/']) = Path.isAbsolute (first :: rest) :=
      rfl
    rw [Path.segments_append, absolute, List.foldlM_append]
    refine Option.bind_eq_some_iff.mpr ⟨location, found, ?_⟩
    have entered : tree.enter location [] = some location := by
      rw [enter, directory]
      rfl
    exact Option.bind_eq_some_iff.mpr ⟨location, entered, rfl⟩

/-- Separators at the end of the path of a directory lead nowhere else. -/
theorem locate_of_trimmed (found : tree.locate (path.rdropWhile (· == '/')) = some location)
    (directory : tree.entry? location = some .directory) : tree.locate path = some location := by
  induction path using List.reverseRecOn with
  | nil => exact found
  | append_singleton front last ih =>
    by_cases separator : last = '/'
    · rw [List.rdropWhile_concat_pos _ _ _ (by simpa using separator)] at found
      rw [separator]
      exact locate_concat_separator (ih found) directory
    · rwa [List.rdropWhile_concat_neg _ _ _ (by simpa using separator)] at found

/-- Making one directory adds nothing but this directory. -/
theorem grows_makeDirectory (made : tree.makeDirectory path = some after) :
    Grows (· = path) tree after := by
  unfold makeDirectory at made
  dsimp only at made
  split at made
  · cases made
  · next location found =>
    split at made
    · cases made
    · next absent =>
      cases made
      have missing : tree.entry? location = none := by simpa using absent
      have present : FileTree.entry? (tree.put location .directory) location = some .directory :=
        entry_put_self (ne_root_of_missing missing) _
      have reached := (keepsDirectories_put missing).locate found
      refine ⟨rfl, fun other => ?_⟩
      by_cases same : other = location
      · rw [same]
        exact .inr ⟨missing, present, path, rfl, locate_of_trimmed reached present⟩
      · exact .inl (entry_put_of_ne same _)

/-- Only the directory of the path and those above it are made, also if a later step fails. -/
theorem grows_makeParents (fuel : Nat) (path : List Char) (tree : FileTree) :
    Grows (fun made => made = path ∨ Path.Above made path) tree (makeParents fuel path tree).2 := by
  induction fuel generalizing path tree with
  | zero => exact .refl _ tree
  | succ fuel ih =>
    have itself {start after : FileTree} (made : start.makeDirectory path = some after) :
        Grows (fun made => made = path ∨ Path.Above made path) start after :=
      (grows_makeDirectory made).mono fun _ => .inl
    rw [makeParents]
    split
    · exact .refl _ tree
    split
    · next after made => exact itself made
    split
    · exact .refl _ tree
    split
    · exact .refl _ tree
    split
    · exact .refl _ tree
    next parent found =>
      have above (made : List Char) (near : made = parent ∨ Path.Above made parent) :
          made = path ∨ Path.Above made path := by
        rcases near with rfl | far
        · exact .inr (.parent found)
        · exact .inr (.further found far)
      have parents := (ih parent tree).mono above
      split
      · next changed ran =>
        rw [ran] at parents
        exact parents
      · next changed ran =>
        rw [ran] at parents
        split
        · next after made => exact parents.trans (itself made)
        · exact parents

/-- Making directories adds nothing but directories on the way. -/
theorem grows_makeDirectories (path : List Char) (tree : FileTree) :
    Grows (fun made => made = path ∨ Path.Above made path) tree (makeDirectories path tree).2 := by
  rw [makeDirectories]
  split
  · exact .refl _ tree
  · exact grows_makeParents _ path tree

end FileTree
end HostTree
