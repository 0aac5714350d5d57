/-
This file shows that the commands agree about the configuration that they compile.
-/

import HostTree.Proofs.Command.Content
import HostTree.Proofs.Command.Loading
import HostTree.Proofs.Command.Saving

namespace HostTree

namespace Request

/-- The commands show the same configuration and the same warnings. What the file holds behind its
header is what is printed. -/
structure Agree (home : String) (source : Source) (store : Store) (warnings : Array Warning)
    (perform : Command → Option String → Report × FileTree) : Prop where
  display : ∀ output, (perform .display output).1 =
    { printed := store.text ++ "\n", warnings := warnings }
  standard : ∀ output, IsStandard output → (perform .store output).1 =
    { printed := store.text ++ "\n", warnings := warnings }
  check : ∀ output, (perform .check output).1 =
    { printed := checkText source.path store.blocks.size warnings.size, warnings := warnings }
  warned : ∀ command output, (perform command output).1.warnings = warnings
  file : ∀ output, ¬ IsStandard output → (perform .store output).1.trouble = none →
    ∃ content, (perform .store output).2.find? (outputPath home output).toList =
        some (.file content.toUTF8) ∧
      ConfigFile.body? content = some (store.text ++ "\n")

variable {home : String} {instant : Instant} {source : Source} {store : Store}
  {warnings : Array Warning} {tree : FileTree} {World : Type} [FileAccess (StateM World)]
  {world : World}

theorem carryOut_of_compile (compiled : compile source.document = (.ok store, warnings))
    (request : Request) :
    (request.carryOut home instant source : StateM World Report) world =
      match request.command with
      | .display => ({ printed := store.text ++ "\n", warnings := warnings }, world)
      | .check =>
        ({ printed := checkText source.path store.blocks.size warnings.size
           warnings := warnings }, world)
      | .store =>
        let (report, after) :=
          (storeText home instant source store.text request.output : StateM World Report) world
        ({ report with warnings := warnings }, after) := by
  rw [carryOut, compiled]
  cases request.command <;> rfl

/-- Loading leaves the files as they are, so that the rest of the run finds them unchanged. -/
theorem run_of_load [FileAccess.ReadsOnly World] {request : Request}
    (loaded : ((Source.load home request.source : ExceptT Failure (StateM World) Source).run
      world).1 = .ok source) :
    (request.run (some home) instant : StateM World Report) world =
      (request.carryOut home instant source : StateM World Report) world := by
  obtain ⟨result, unchanged⟩ := Source.run_load home request.source world
  rw [unchanged] at loaded
  cases loaded
  rw [run, Failure.apply_bind, unchanged]

end Request
end HostTree
