/-
This file shows that the walk over a document does what the list of its visits says.
-/

import HostTree.Proofs.Failure.Sequence
import HostTree.Proofs.Walk.Visit

namespace HostTree

namespace Compilation

theorem run_lift {Content : Type} (result : Except Failure Content) (session : Session) :
    (result : Compilation Content).run session = (result, session) := rfl

theorem run_emit (name : String) (kind : BlockKind) (lines : List String) (session : Session) :
    (Compilation.emit name kind lines).run session =
      (.ok (), session.take { emission := some ⟨name, kind, .ofList lines⟩ }) := by
  have same (line : String) : line ∈ (Std.ExtTreeSet.ofList lines).toList ↔ line ∈ lines := by
    simp
  simp only [Session.take, Emission.addTo]
  rw [Store.push_congr session.store name kind same]
  exact Prod.ext rfl (congrArg (Session.mk _) (Array.append_empty).symm)

/-- One setting gives a line, a warning or a failure. -/
theorem run_setting (setting : Setting) (item : Option Value) (session : Session) :
    (Compilation.setting setting item).run session =
      (match setting.failure? item with
        | some failure => .error failure
        | none => .ok (setting.line? item).toList,
        session.take { warnings := (setting.warning? item).toList }) := by
  unfold Compilation.setting Setting.failure? Setting.line? Setting.warning?
  rw [Failure.run_bind, run_lift]
  have unchanged : session.take {} = session :=
    congrArg (Session.mk session.store) Array.append_empty
  rcases setting.compile item with failure | text | warning
  case error => exact Prod.ext rfl unchanged.symm
  case ok.line => exact Prod.ext rfl unchanged.symm
  case ok.dropped => rfl

/-- The settings of a node give all their lines or the first failure, and the warnings before it. -/
theorem run_settings (item : Option Value) (settings : List Setting) (session : Session) :
    (Compilation.settings item settings).run session =
      (match Setting.firstFailure? item settings with
        | some failure => .error failure
        | none => .ok (Setting.lines item settings),
        session.take { warnings := Setting.warnings item settings }) := by
  induction settings generalizing session with
  | nil =>
    rw [Setting.warnings, List.takeWhile_nil, List.filterMap_nil]
    exact Prod.ext rfl (congrArg (Session.mk session.store) Array.append_empty.symm)
  | cons setting rest ih =>
    rw [Compilation.settings, Failure.run_bind, run_setting, Setting.firstFailure?_cons]
    cases failed : setting.failure? item with
    | some failure =>
      rw [Setting.warnings_cons_of_failure failed, Setting.warning?_of_failure failed]
      rfl
    | none =>
      dsimp only
      rw [Failure.run_bind, ih, Setting.warnings_cons_of_success failed, Setting.lines_cons]
      simp only [Session.take, ← List.append_toArray, Array.append_assoc]
      cases Setting.firstFailure? item rest <;> rfl

/-- A loop performs the effects of its rounds in order. -/
theorem run_forM {Content : Type} (contents : List Content) (body : Content → Compilation Unit)
    (effects : Content → List Effect)
    (each : ∀ content session,
      (body content).run session = session.perform (effects content))
    (session : Session) :
    (contents.forM body).run session = session.perform (contents.flatMap effects) := by
  induction contents generalizing session with
  | nil => rfl
  | cons content rest ih =>
    rw [List.flatMap_cons, Session.perform_append, ← each content session]
    change (body content >>= fun _ => rest.forM body).run session = _
    rw [Failure.run_bind]
    rcases (body content).run session with ⟨_ | _, after⟩
    · rfl
    · exact ih after

end Compilation

namespace Outline

/-- This is one round of the loop of a node. -/
def iterate (declaration : Declaration) (settings : List Setting) (parentName : String)
    (children : List Outline) (item : Option Value) : Compilation Unit := do
  let name ← (declaration.blockName parentName item : Except Failure String)
  let lines ← Compilation.settings item settings
  unless declaration.hidden do
    Compilation.emit name declaration.kind lines
  compileAll (declaration.nameForChildren name)
    (declaration.settingsForChildren name settings) children

theorem compile_node (parentName : String) (inherited : List Setting) (declaration : Declaration)
    (children : List Outline) :
    compile parentName inherited (node declaration children) =
      declaration.items.forM (iterate declaration
        (Setting.overlay inherited declaration.settings) parentName children) := rfl

theorem compileAll_append (parentName : String) (inherited : List Setting)
    (first second : List Outline) :
    compileAll parentName inherited (first ++ second) = (do
      compileAll parentName inherited first
      compileAll parentName inherited second) := by
  induction first with
  | nil => rfl
  | cons outline rest ih => rw [List.cons_append, compileAll, compileAll, ih, bind_assoc]

/-- One iteration has its own effect and then the effects of the visits below it. -/
theorem run_iterate (place : List Nat) (declaration : Declaration) (settings : List Setting)
    (parentName : String) (children : List Outline) (item : Option Value)
    (below : ∀ name shared session, (compileAll name shared children).run session =
      session.perform ((visitsAll place 0 name shared children).map Visit.effect))
    (session : Session) :
    (iterate declaration settings parentName children item).run session =
      session.perform
        ((round place declaration settings parentName children item).map Visit.effect) := by
  rw [iterate, round, visitsBelow]
  rw [Failure.run_bind, Compilation.run_lift, List.map_cons, Session.perform, Visit.effect]
  cases named : declaration.blockName parentName item with
  | error failure =>
    exact Prod.ext rfl (congrArg (Session.mk session.store) Array.append_empty.symm)
  | ok name =>
    dsimp only
    rw [Failure.run_bind, Compilation.run_settings]
    cases failed : Setting.firstFailure? item settings with
    | some failure =>
      rw [if_pos (Or.inr Option.isSome_some)]
      rfl
    | none =>
      dsimp only
      cases shown : declaration.hidden with
      | true => exact below _ _ _
      | false =>
        rw [if_neg Bool.false_ne_true, Failure.run_bind, Compilation.run_emit,
          if_neg (by simp)]
        simp only [Session.take, Array.append_empty]
        exact below _ _ _

mutual

/-- The compilation of an outline performs the effects of its visits, whatever their places are
called. -/
theorem run_compile (place : List Nat) (parentName : String) (inherited : List Setting)
    (outline : Outline) (session : Session) :
    (compile parentName inherited outline).run session =
      session.perform ((visits place parentName inherited outline).map Visit.effect) := by
  cases outline with
  | invalid failure =>
    rw [compile, visits]
    exact Prod.ext rfl (congrArg (Session.mk session.store) Array.append_empty.symm)
  | node declaration children =>
    rw [compile_node, visits_node, List.map_flatMap]
    apply Compilation.run_forM
    intro item after
    apply run_iterate
    intro name shared last
    exact run_compileAll place 0 name shared children last
termination_by structural outline

theorem run_compileAll (place : List Nat) (position : Nat) (parentName : String)
    (inherited : List Setting) (outlines : List Outline) (session : Session) :
    (compileAll parentName inherited outlines).run session =
      session.perform
        ((visitsAll place position parentName inherited outlines).map Visit.effect) := by
  cases outlines with
  | nil => rfl
  | cons first rest =>
    rw [compileAll, visitsAll, List.map_append, Session.perform_append, Failure.run_bind,
      run_compile (place ++ [position])]
    rcases session.perform _ with ⟨_ | _, after⟩
    · rfl
    · exact run_compileAll place (position + 1) parentName inherited rest after
termination_by structural outlines

end

end Outline

/-- The compiled configuration depends on nothing but the compilation of the outlines. -/
theorem compile_congr {first second : Value}
    (same : Outline.compileAll "" [] (Outline.ofDocument first) =
      Outline.compileAll "" [] (Outline.ofDocument second)) :
    compile first = compile second := by
  rw [compile, compile, Session.feed, Session.feed, same]

/-- A document goes on with the session as the list of its visits says. -/
theorem Session.feed_eq_perform (session : Session) (document : Value) :
    session.feed document =
      session.perform ((Visit.ofDocument document).map Visit.effect) :=
  Outline.run_compileAll [] 0 "" [] (Outline.ofDocument document) session

/-- The compiled configuration depends on nothing but the effects of the visits that take place. -/
theorem compile_eq_of_performed {first second : Value}
    (same : (Visit.performed (Visit.ofDocument first)).map Visit.effect =
      (Visit.performed (Visit.ofDocument second)).map Visit.effect) :
    compile first = compile second := by
  have sameRun : ({} : Session).feed first = ({} : Session).feed second := by
    rw [Session.feed_eq_perform, Session.feed_eq_perform, ← Session.perform_upTo,
      ← Session.perform_upTo _ ((Visit.ofDocument second).map Visit.effect), upTo_map, upTo_map]
    exact congrArg ({} : Session).perform same
  rw [compile, compile, sameRun]

/-- Without a failure the compilation succeeds, and its store takes every emission. -/
theorem compile_of_success {document : Value}
    (passed : (Visit.ofDocument document).findSome? (fun visit => visit.effect.failure) = none) :
    compile document =
      (.ok (((Visit.ofDocument document).filterMap fun visit => visit.effect.emission).foldl
          Emission.addTo Store.empty),
        ((Visit.ofDocument document).flatMap fun visit => visit.effect.warnings).toArray) := by
  have each : ∀ effect ∈ (Visit.ofDocument document).map Visit.effect, effect.failure = none := by
    intro effect among
    obtain ⟨visit, member, rfl⟩ := List.mem_map.mp among
    exact List.findSome?_eq_none_iff.mp passed visit member
  rw [compile, Session.feed_eq_perform, Session.perform_of_success each]
  apply Prod.ext
  · simp only [Session.store_foldl_take, List.filterMap_map, Function.comp_def]
    rfl
  · apply Array.toList_inj.mp
    simp only [Session.warnings_foldl_take, List.flatMap_map]
    rfl

/-- The first failure is the result, with the warnings of the visits that took place. -/
theorem compile_of_failure {document : Value} {failure : Failure}
    (failed : (Visit.ofDocument document).findSome? (fun visit => visit.effect.failure) =
      some failure) :
    compile document =
      (.error failure, ((Visit.performed (Visit.ofDocument document)).flatMap fun visit =>
        visit.effect.warnings).toArray) := by
  have outcome := Session.perform_fst {} ((Visit.ofDocument document).map Visit.effect)
  have final := Session.perform_snd {} ((Visit.ofDocument document).map Visit.effect)
  rw [List.findSome?_map, Function.comp_def, failed] at outcome
  rw [upTo_map] at final
  rw [compile, Session.feed_eq_perform]
  apply Prod.ext
  · simp only [outcome]
    rfl
  · apply Array.toList_inj.mp
    simp only [final, Session.warnings_foldl_take, List.flatMap_map]
    rfl

end HostTree
