/-
This file shows what the store command leaves in the files.
-/

import HostTree.Command
import HostTree.Proofs.Failure.Sequence
import HostTree.Proofs.FileTree.Writing

namespace HostTree

variable {tree : FileTree}

namespace ConfigFile

/-- The file is written when its directory is ready. -/
theorem run_write (path content : String) :
    (write path content : ExceptT Failure (StateM FileTree) Unit).run tree =
      match (prepareParent path : StateM FileTree Bool) tree with
      | (false, after) => (.error (.unwritableOutput path), after)
      | (true, ready) =>
        match ready.writeText path.toList content with
        | (false, after) => (.error (.unwritableOutput path), after)
        | (true, after) => (.ok (), after) := by
  rw [write, Failure.run_lift_bind]
  obtain ⟨prepared, ready⟩ := (prepareParent path : StateM FileTree Bool) tree
  cases prepared with
  | false => rfl
  | true =>
    dsimp only
    rw [if_pos rfl, Failure.run_lift_bind]
    have written : (FileAccess.writeText path content : StateM FileTree Bool) ready =
        ready.writeText path.toList content := rfl
    rw [written]
    obtain ⟨done, after⟩ := ready.writeText path.toList content
    cases done <;> rfl

end ConfigFile

namespace Request

/-- The output is the standard output however its path is written. -/
def IsStandard (output : Option String) : Prop :=
  ∃ path, output = some path ∧ Path.components path.toList = Path.components standardOutput

/-- A configuration goes here if it does not go to the standard output. -/
def outputPath (home : String) (output : Option String) : String :=
  (output.map (Path.expandHome · home)).getD (ConfigFile.usualPath home)

variable {home : String} {instant : Instant} {source : Source}

/-- What goes to the standard output does not go to any file, whatever files there are. -/
theorem storeText_of_isStandard {World : Type} [FileAccess (StateM World)] {world : World}
    {output : Option String} (standard : IsStandard output) (text : String) :
    (storeText home instant source text output : StateM World Report) world =
      ({ printed := text ++ "\n" }, world) := by
  obtain ⟨path, rfl, same⟩ := standard
  rw [storeText, if_pos (by simpa using same)]
  rfl

theorem storeText_of_not_isStandard {output : Option String} (other : ¬ IsStandard output)
    (text : String) :
    (storeText home instant source text output : StateM FileTree Report) tree =
      match (ConfigFile.write (outputPath home output)
        (ConfigFile.text text source.path instant) :
          ExceptT Failure (StateM FileTree) Unit).run tree with
      | (.ok _, after) => ({}, after)
      | (.error cause, after) =>
        ({ trouble := some ⟨"Failed to write " ++ outputPath home output, .failure cause⟩ },
          after) := by
  have named : ¬ (output.any fun path =>
      Path.components path.toList == Path.components standardOutput) := by
    intro standard
    obtain ⟨path, given, same⟩ := (Option.any_eq_true _ _).mp standard
    exact other ⟨path, given, beq_iff_eq.mp same⟩
  rw [storeText, if_neg named, Failure.apply_bind, ← outputPath]
  obtain ⟨saved, after⟩ := (ConfigFile.write (outputPath home output)
    (ConfigFile.text text source.path instant) : ExceptT Failure (StateM FileTree) Unit).run tree
  cases saved <;> rfl

end Request
end HostTree
