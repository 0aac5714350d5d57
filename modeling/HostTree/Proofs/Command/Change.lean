/-
This file shows which files a command changes and that a failure changes none.
-/

import HostTree.Proofs.Command.Agreement
import HostTree.Proofs.FileTree.Growth

namespace HostTree

namespace FileTree

variable {before middle after : FileTree} {path : List Char}

/-- The changes are a file where the path leads to and missing directories above it. -/
structure WritesOnly (path : List Char) (before after : FileTree) : Prop where
  workingDirectory : after.workingDirectory = before.workingDirectory
  changed : ∀ location, after.entry? location ≠ before.entry? location →
    (after.locate path = some location ∧
      (before.entry? location).any FileEntry.isDirectory = false ∧
      ∃ content, after.entry? location = some (.file content)) ∨
    (before.entry? location = none ∧ after.entry? location = some .directory ∧
      ∃ parent, Path.Above parent path ∧ after.locate parent = some location)

/-- Making the directories above a path is a part of writing to it. -/
theorem Grows.writesOnly (grows : Grows (Path.Above · path) before after) :
    WritesOnly path before after where
  workingDirectory := grows.workingDirectory
  changed location different := .inr ((grows.made location).resolve_left different)

/-- Writing a text changes only the file that the path leads to. -/
theorem writesOnly_writeText (grows : Grows (Path.Above · path) before middle) (text : String) :
    WritesOnly path before (middle.writeText path text).2 := by
  rw [writeText]
  split
  · exact grows.writesOnly
  · next location found =>
    split
    · exact grows.writesOnly
    · next free =>
      have blocked := eq_false_of_ne_true free
      have inside : location ≠ [] := by
        rintro rfl
        exact free rfl
      have leads := locate_put_file inside blocked text.toUTF8
      refine ⟨grows.workingDirectory, fun other different => ?_⟩
      dsimp only at different ⊢
      rw [leads]
      by_cases same : other = location
      · subst same
        refine .inl ⟨found, ?_, _, entry_put_self inside _⟩
        exact eq_false_of_ne_true fun directory =>
          free (grows.keepsDirectories.kept other directory)
      · rw [entry_put_of_ne same] at different ⊢
        obtain ⟨missing, made, parent, above, reached⟩ :=
          (grows.made other).resolve_left different
        exact .inr ⟨missing, made, parent, above, by rwa [leads]⟩

end FileTree

namespace ConfigFile

/-- Only directories above the path are made. -/
theorem grows_prepareParent (path : String) (tree : FileTree) :
    FileTree.Grows (Path.Above · path.toList) tree
      ((prepareParent path : StateM FileTree Bool) tree).2 := by
  rw [prepareParent]
  cases found : Path.parent? path.toList with
  | none => exact .refl _ tree
  | some parent =>
    cases parent with
    | nil => exact .refl _ tree
    | cons first rest =>
      have made : (FileAccess.makeDirectories (String.ofList (first :: rest)) :
          StateM FileTree Bool) tree =
          FileTree.makeDirectories (String.ofList (first :: rest)).toList tree := rfl
      dsimp only
      rw [made, String.toList_ofList]
      refine (FileTree.grows_makeDirectories (first :: rest) tree).mono fun made near => ?_
      rcases near with rfl | above
      · exact .parent found
      · exact .further found above

/-- Writing the configuration changes only its file and the directories above it. -/
theorem writesOnly_write (path content : String) (tree : FileTree) :
    FileTree.WritesOnly path.toList tree
      ((write path content : ExceptT Failure (StateM FileTree) Unit).run tree).2 := by
  have grows := grows_prepareParent path tree
  rw [run_write]
  split
  · next after prepared =>
    rw [prepared] at grows
    exact grows.writesOnly
  · next ready prepared =>
    rw [prepared] at grows
    have writes := FileTree.writesOnly_writeText grows content
    split
    · next after written =>
      rw [written] at writes
      exact writes
    · next after written =>
      rw [written] at writes
      exact writes

end ConfigFile

namespace Request

variable {home : Option String} {directory : String} {instant : Instant} {request : Request}
  {source : Source} {World : Type} [FileAccess (StateM World)] {world : World}

/-- The home directory is known, the source is found, read and parsed, and its document is
compiled. -/
def Compiles (home : Option String) (request : Request) (world : World) : Prop :=
  ∃ directory source store, home = some directory ∧
    ((Source.load directory request.source : ExceptT Failure (StateM World) Source).run world).1 =
        .ok source ∧
      (compile source.document).1 = .ok store

/-- The configuration is to be stored, and not on the standard output. -/
structure SavesFile (request : Request) : Prop where
  command : request.command = .store
  output : ¬ IsStandard request.output

/-- A source that is not loaded ends the request. -/
theorem run_of_load_error {cause : Failure}
    (failed : (Source.load directory request.source : ExceptT Failure (StateM World) Source).run
      world = (.error cause, world)) (instant : Instant) :
    (request.run (some directory) instant : StateM World Report) world =
      ({ trouble := some ⟨loadingContext, .failure cause⟩ }, world) := by
  rw [run, Failure.apply_bind, failed]
  rfl

/-- A document that is not compiled ends the request. The warnings before the failure are kept. -/
theorem carryOut_of_compile_error {cause : Failure}
    (failed : (compile source.document).1 = .error cause) (instant : Instant) :
    (request.carryOut directory instant source : StateM World Report) world =
      ({ warnings := (compile source.document).2
         trouble := some ⟨"Failed to compile " ++ source.path, .failure cause⟩ }, world) := by
  rw [carryOut]
  dsimp only
  rw [failed]
  rfl

/-- A request that does not get to a compiled document fails without a trace. -/
theorem run_of_not_compiles [FileAccess.ReadsOnly World]
    (failed : ¬ request.Compiles home world) (instant : Instant) :
    ∃ report, (request.run home instant : StateM World Report) world = (report, world) ∧
      report.exitCode = 1 ∧ report.printed = "" := by
  cases home with
  | none => exact ⟨{ trouble := some ⟨loadingContext, .homeNotFound⟩ }, rfl, rfl, rfl⟩
  | some directory =>
    obtain ⟨result, loaded⟩ := Source.run_load directory request.source world
    cases result with
    | error cause => exact ⟨_, run_of_load_error loaded instant, rfl, rfl⟩
    | ok source =>
      obtain ⟨cause, compiled⟩ : ∃ cause, (compile source.document).1 = .error cause := by
        cases compiled : (compile source.document).1 with
        | error cause => exact ⟨cause, rfl⟩
        | ok store =>
          exact absurd ⟨directory, source, store, rfl, congrArg Prod.fst loaded, compiled⟩ failed
      have carriedOut := run_of_load (congrArg Prod.fst loaded) |>.trans
        (carryOut_of_compile_error compiled instant)
      exact ⟨_, carriedOut, rfl, rfl⟩

/-- What is not saved changes nothing. -/
theorem snd_carryOut_of_standard {store : Store}
    (compiled : (compile source.document).1 = .ok store) (other : ¬ request.SavesFile) :
    ((request.carryOut directory instant source : StateM World Report) world).2 = world := by
  rw [carryOut_of_compile (Prod.ext compiled rfl)]
  cases command : request.command with
  | display => rfl
  | check => rfl
  | store =>
    have standard : IsStandard request.output := by
      by_contra apart
      exact other ⟨command, apart⟩
    dsimp only
    rw [storeText_of_isStandard standard]

/-- Saving changes only the file of the output and the directories above it. -/
theorem writesOnly_carryOut {store : Store} (compiled : (compile source.document).1 = .ok store)
    (saves : request.SavesFile) (tree : FileTree) :
    FileTree.WritesOnly (outputPath directory request.output).toList tree
      ((request.carryOut directory instant source : StateM FileTree Report) tree).2 := by
  rw [carryOut_of_compile (Prod.ext compiled rfl), saves.command]
  dsimp only
  have writes := ConfigFile.writesOnly_write (outputPath directory request.output)
    (ConfigFile.text store.text source.path instant) tree
  rw [storeText_of_not_isStandard saves.output]
  generalize (ConfigFile.write (outputPath directory request.output)
    (ConfigFile.text store.text source.path instant) :
      ExceptT Failure (StateM FileTree) Unit).run tree = result at writes ⊢
  obtain ⟨done, after⟩ := result
  cases done <;> exact writes

/-- A request that saves no file changes nothing, be it carried out or not. -/
theorem snd_run_of_standard [FileAccess.ReadsOnly World] (other : ¬ request.SavesFile)
    (home : Option String) (instant : Instant) (world : World) :
    ((request.run home instant : StateM World Report) world).2 = world := by
  by_cases compiles : request.Compiles home world
  · obtain ⟨directory, source, store, rfl, loaded, compiled⟩ := compiles
    rw [run_of_load loaded, snd_carryOut_of_standard compiled other]
  · obtain ⟨report, ran, _⟩ := run_of_not_compiles compiles instant
    rw [ran]

/-- A request changes at most the file of its output and the directories above it. -/
theorem writesOnly_run (directory : String) (instant : Instant) (request : Request)
    (tree : FileTree) :
    FileTree.WritesOnly (outputPath directory request.output).toList tree
      ((request.run (some directory) instant : StateM FileTree Report) tree).2 := by
  have unchanged : FileTree.WritesOnly (outputPath directory request.output).toList tree tree :=
    (FileTree.Grows.refl _ tree).writesOnly
  by_cases saves : request.SavesFile
  · by_cases compiles : request.Compiles (some directory) tree
    · obtain ⟨_, source, store, ⟨⟩, loaded, compiled⟩ := compiles
      rw [run_of_load loaded]
      exact writesOnly_carryOut compiled saves tree
    · obtain ⟨report, ran, _⟩ := run_of_not_compiles compiles instant
      rwa [ran]
  · rwa [snd_run_of_standard saves]

/-- If the home directory is not known, or the source is not found, read, parsed and compiled, then
the request fails, prints nothing and leaves the files as they are, whatever a file system does.
Otherwise only saving a file changes anything, namely the file of the output and the directories
above it that were missing. -/
theorem changes_of_run (home : Option String) (instant : Instant) (request : Request) :
    (∀ (World : Type) [FileAccess (StateM World)] [FileAccess.ReadsOnly World]
      (world after : World) (report : Report),
      (request.run home instant : StateM World Report) world = (report, after) →
        (¬ request.Compiles home world →
          report.exitCode = 1 ∧ report.printed = "" ∧ after = world) ∧
        (¬ request.SavesFile → after = world)) ∧
    ∀ (before after : FileTree) (report : Report),
      (request.run home instant : StateM FileTree Report) before = (report, after) →
        ∀ directory, home = some directory →
          FileTree.WritesOnly (outputPath directory request.output).toList before after := by
  refine ⟨fun World _ _ world after report ran => ⟨fun fails => ?_, fun other => ?_⟩,
    fun before after report ran directory known => ?_⟩
  · obtain ⟨failure, failed, code, silent⟩ := run_of_not_compiles fails instant
    obtain ⟨rfl, rfl⟩ := Prod.mk.inj (ran.symm.trans failed)
    exact ⟨code, silent, rfl⟩
  · have unchanged := snd_run_of_standard other home instant world
    rwa [ran] at unchanged
  · subst known
    have writes := writesOnly_run directory instant request before
    rwa [ran] at writes

/-- A configuration that is there outlives a document with a wrong option. -/
theorem changes_of_run_wrong_option :
    let tree : FileTree :=
      { entries :=
          [([['h']], .directory),
            ([['h'], ['d']], .file "Prt: 22\n".toUTF8),
            ([['h'], ".ssh".toList], .directory),
            ([['h'], ".ssh".toList, "config".toList], .file "Host z\n".toUTF8)] }
    ∃ report, (run (some "/h") ⟨0, 0⟩ ⟨.store, some "~/d", none⟩ : StateM FileTree Report) tree =
      (report, tree) ∧ report.exitCode = 1 ∧ report.printed = "" := by
  intro tree
  have refused : ¬ Compiles (some "/h") ⟨.store, some "~/d", none⟩ tree := by
    rintro ⟨_, source, store, ⟨⟩, loaded, compiled⟩
    have wrong : (((Source.load "/h" (some "~/d") :
        ExceptT Failure (StateM FileTree) Source).run tree).1.toOption.all
          fun source => !(compile source.document).1.isOk) = true := by decide +kernel
    rw [loaded] at wrong
    simp [Except.toOption, compiled, Except.isOk, Except.toBool] at wrong
  rcases ran : (run (some "/h") ⟨0, 0⟩ ⟨.store, some "~/d", none⟩ :
    StateM FileTree Report) tree with ⟨report, after⟩
  obtain ⟨code, silent, unchanged⟩ :=
    ((changes_of_run (some "/h") ⟨0, 0⟩ _).1 FileTree tree after report ran).1 refused
  exact ⟨report, congrArg (Prod.mk report) unchanged, code, silent⟩

end Request
end HostTree
