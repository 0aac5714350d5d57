/-
This file shows that a source is found and read without any change to the files.
-/

import HostTree.FileTree
import HostTree.Proofs.Failure.Sequence
import HostTree.Source

namespace HostTree

/-- Looking at the files does not change them. -/
class FileAccess.ReadsOnly (World : Type) [FileAccess (StateM World)] : Prop where
  isFile : ∀ (path : String) (world : World),
    ((FileAccess.isFile path : StateM World Bool) world).2 = world
  readText : ∀ (path : String) (world : World),
    ((FileAccess.readText path : StateM World (Option String)) world).2 = world

instance : FileAccess.ReadsOnly FileTree :=
  ⟨fun _ _ => rfl, fun _ _ => rfl⟩

namespace Source

variable {World : Type} [FileAccess (StateM World)] [FileAccess.ReadsOnly World]

/-- Looking for the first file changes nothing. -/
theorem run_firstFile (paths : List String) (world : World) :
    ∃ found, (firstFile paths : StateM World (Option String)) world = (found, world) := by
  induction paths with
  | nil => exact ⟨none, rfl⟩
  | cons path rest ih =>
    rw [firstFile, Failure.apply_bind, FileAccess.ReadsOnly.isFile]
    split
    · exact ⟨some path, rfl⟩
    · exact ih

/-- Looking for the source changes nothing. -/
theorem run_discover (home : String) (given : Option String) (world : World) :
    ∃ result, (discover home given : ExceptT Failure (StateM World) String).run world =
      (result, world) := by
  obtain ⟨found, unchanged⟩ := run_firstFile (candidates home given) world
  rw [discover, Failure.run_lift_bind, unchanged]
  cases found <;> exact ⟨_, rfl⟩

/-- Reading the source changes nothing. -/
theorem run_readFrom (path : String) (world : World) :
    ∃ result, (readFrom path : ExceptT Failure (StateM World) Source).run world =
      (result, world) := by
  rw [readFrom, Failure.run_lift_bind, FileAccess.ReadsOnly.readText]
  cases ((FileAccess.readText path : StateM World (Option String)) world).1 with
  | none => exact ⟨_, rfl⟩
  | some content =>
    dsimp only
    cases parse (SourceFormat.ofPath path) path content <;> exact ⟨_, rfl⟩

/-- The files are only read. -/
theorem run_load (home : String) (given : Option String) (world : World) :
    ∃ result, (load home given : ExceptT Failure (StateM World) Source).run world =
      (result, world) := by
  obtain ⟨found, unchanged⟩ := run_discover home given world
  rw [load, Failure.run_bind, unchanged]
  cases found with
  | error failure => exact ⟨_, rfl⟩
  | ok path => exact run_readFrom path world

end Source
end HostTree
