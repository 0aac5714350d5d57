/-
This file holds what the visits of a walk do to a session, one after the other.
-/

import HostTree.Compile
import HostTree.Proofs.Store.Grouping

namespace HostTree

/-- This is the list up to the first member that stops it, with this member. -/
def upTo {Content : Type} (stops : Content → Bool) : List Content → List Content
  | [] => []
  | first :: rest => if stops first then [first] else first :: upTo stops rest

/-- Without a stop nothing is cut off. -/
theorem upTo_eq_self {Content : Type} {stops : Content → Bool} {contents : List Content}
    (goesOn : ∀ content ∈ contents, stops content = false) : upTo stops contents = contents := by
  induction contents with
  | nil => rfl
  | cons first rest ih =>
    rw [upTo, goesOn first List.mem_cons_self, if_neg Bool.false_ne_true,
      ih fun content among => goesOn content (List.mem_cons_of_mem first among)]

/-- A test of changed contents stops where the test after the change does. -/
theorem upTo_map {First Second : Type} (change : First → Second) (stops : Second → Bool)
    (contents : List First) :
    upTo stops (contents.map change) = (upTo (stops ∘ change) contents).map change := by
  induction contents with
  | nil => rfl
  | cons first rest ih =>
    rw [List.map_cons, upTo, upTo, Function.comp_apply]
    cases stops (change first) with
    | true => rfl
    | false => simpa using ih

theorem mem_of_mem_upTo {Content : Type} {stops : Content → Bool} {contents : List Content}
    {content : Content} (among : content ∈ upTo stops contents) : content ∈ contents := by
  induction contents with
  | nil => cases among
  | cons first rest ih =>
    rw [upTo] at among
    split at among
    · exact List.mem_cons.mpr (.inl (List.mem_singleton.mp among))
    · rcases List.mem_cons.mp among with same | later
      · exact List.mem_cons.mpr (.inl same)
      · exact List.mem_cons_of_mem first (ih later)

/-- A visit first reports its warnings. Then it fails or adds its emission. -/
structure Effect where
  warnings : List Warning := []
  emission : Option Emission := none
  failure : Option Failure := none

/-- An effect fails if it has a failure. -/
def Effect.fails (effect : Effect) : Bool :=
  effect.failure.isSome

namespace Session

/-- What an effect emits and warns of is added to the session. -/
def take (session : Session) (effect : Effect) : Session where
  store := match effect.emission with
    | none => session.store
    | some emission => Emission.addTo session.store emission
  warnings := session.warnings ++ effect.warnings.toArray

/-- The first failure ends the run, and what came before it stays. -/
def perform (session : Session) : List Effect → Except Failure Unit × Session
  | [] => (.ok (), session)
  | effect :: rest =>
    match effect.failure with
    | some failure => (.error failure, session.take effect)
    | none => (session.take effect).perform rest

/-- The second part is performed if the first one does not fail. -/
theorem perform_append (session : Session) (first second : List Effect) :
    session.perform (first ++ second) =
      match session.perform first with
      | (.ok _, after) => after.perform second
      | (.error failure, after) => (.error failure, after) := by
  induction first generalizing session with
  | nil => rfl
  | cons effect rest ih =>
    rw [List.cons_append, perform, perform]
    cases effect.failure with
    | some failure => rfl
    | none => exact ih (session.take effect)

/-- Nothing after the first failure counts. -/
theorem perform_upTo (session : Session) (effects : List Effect) :
    session.perform (upTo Effect.fails effects) = session.perform effects := by
  induction effects generalizing session with
  | nil => rfl
  | cons effect rest ih =>
    cases failed : effect.failure with
    | some failure => simp [upTo, perform, Effect.fails, failed]
    | none => simpa [upTo, perform, Effect.fails, failed] using ih (session.take effect)

/-- The result is the first failure, if there is one. -/
theorem perform_fst (session : Session) (effects : List Effect) :
    (session.perform effects).1 =
      match effects.findSome? Effect.failure with
      | some failure => .error failure
      | none => .ok () := by
  induction effects generalizing session with
  | nil => rfl
  | cons effect rest ih =>
    rw [perform, List.findSome?_cons]
    cases effect.failure with
    | some failure => rfl
    | none => exact ih (session.take effect)

/-- The effects up to the first failure change the session. -/
theorem perform_snd (session : Session) (effects : List Effect) :
    (session.perform effects).2 = (upTo Effect.fails effects).foldl take session := by
  induction effects generalizing session with
  | nil => rfl
  | cons effect rest ih =>
    cases failed : effect.failure with
    | some failure => simp [upTo, perform, Effect.fails, failed]
    | none => simpa [upTo, perform, Effect.fails, failed] using ih (session.take effect)

/-- Without a failure all effects are taken. -/
theorem perform_of_success {effects : List Effect}
    (passed : ∀ effect ∈ effects, effect.failure = none) (session : Session) :
    session.perform effects = (.ok (), effects.foldl take session) := by
  induction effects generalizing session with
  | nil => rfl
  | cons effect rest ih =>
    obtain ⟨now, later⟩ := List.forall_mem_cons.mp passed
    rw [perform, now]
    exact ih later (session.take effect)

/-- The store takes the emissions in their order. -/
theorem store_foldl_take (session : Session) (effects : List Effect) :
    (effects.foldl take session).store =
      (effects.filterMap Effect.emission).foldl Emission.addTo session.store := by
  induction effects generalizing session with
  | nil => rfl
  | cons effect rest ih =>
    rw [List.foldl_cons, ih, List.filterMap_cons, take]
    cases effect.emission <;> rfl

/-- The warnings come behind those that are there, in their order. -/
theorem warnings_foldl_take (session : Session) (effects : List Effect) :
    (effects.foldl take session).warnings.toList =
      session.warnings.toList ++ effects.flatMap Effect.warnings := by
  induction effects generalizing session with
  | nil => simp
  | cons effect rest ih =>
    rw [List.foldl_cons, ih, List.flatMap_cons, take]
    simp

end Session
end HostTree
