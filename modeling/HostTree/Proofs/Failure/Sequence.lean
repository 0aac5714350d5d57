/-
This file runs computations that can fail one after the other.
-/

import HostTree.Failure

namespace HostTree.Failure

variable {State First Second : Type}

/-- The second part begins with the state that the first one leaves. -/
theorem apply_bind (first : StateM State First) (next : First → StateM State Second)
    (state : State) : (first >>= next) state = next (first state).1 (first state).2 :=
  rfl

/-- A failure of the first part skips the second one and keeps the state. -/
theorem run_bind (first : ExceptT Failure (StateM State) First)
    (next : First → ExceptT Failure (StateM State) Second) (state : State) :
    (first >>= next).run state =
      match first.run state with
      | (.ok content, after) => (next content).run after
      | (.error failure, after) => (.error failure, after) := by
  rw [ExceptT.run_bind]
  simp only [bind, StateT.bind]
  rcases first.run state with ⟨_ | _, _⟩ <;> rfl

/-- A part that cannot fail is followed by the second part. -/
theorem run_lift_bind (first : StateM State First)
    (next : First → ExceptT Failure (StateM State) Second) (state : State) :
    ((first : ExceptT Failure (StateM State) First) >>= next).run state =
      (next (first state).1).run (first state).2 := by
  rw [run_bind]
  rfl

end HostTree.Failure
