/-
This file compares two lists of visits by the effects of those that take place.
-/

import HostTree.Proofs.Walk.Context

namespace HostTree

/-- If the first part has a stop, then the second part is not reached. -/
theorem upTo_append {Content : Type} (stops : Content → Bool) (first second : List Content) :
    upTo stops (first ++ second) =
      if first.any stops then upTo stops first else first ++ upTo stops second := by
  induction first with
  | nil => rfl
  | cons content rest ih =>
    rw [List.cons_append, upTo, upTo, ih, List.any_cons]
    cases stops content with
    | true => rfl
    | false =>
      rw [Bool.false_or]
      simp only [Bool.false_eq_true, if_false]
      split <;> rfl

/-- The part up to the first stop has a stop exactly when the whole has one. -/
theorem any_upTo {Content : Type} (stops : Content → Bool) (contents : List Content) :
    (upTo stops contents).any stops = contents.any stops := by
  induction contents with
  | nil => rfl
  | cons content rest ih =>
    rw [upTo, List.any_cons]
    cases stopped : stops content with
    | true => simp [stopped]
    | false => simp [stopped, ih]

namespace Visit

/-- As long as the visits of the first list that take place are good, those of the second list have
the same effects. -/
def Agree (good : Visit → Prop) (first second : List Visit) : Prop :=
  (∀ visit ∈ performed first, good visit) →
    (performed first).map effect = (performed second).map effect

/-- The effects of the performed visits are the effects up to the first failure. -/
theorem map_effect_performed (visits : List Visit) :
    (performed visits).map effect = upTo Effect.fails (visits.map effect) :=
  (upTo_map effect Effect.fails visits).symm

variable {good : Visit → Prop}

/-- Visits with equal effects agree. -/
theorem agree_of_effects {first second : List Visit}
    (same : first.map effect = second.map effect) : Agree good first second := by
  intro _
  rw [map_effect_performed, map_effect_performed, same]

/-- The visits after one with the same effect matter only if this one is good. -/
theorem agree_cons {visit other : Visit} {first second : List Visit}
    (same : visit.effect = other.effect) (rest : good visit → Agree good first second) :
    Agree good (visit :: first) (other :: second) := by
  intro allGood
  have goodFirst : good visit := by
    apply allGood
    rw [performed, upTo]
    split <;> exact List.mem_cons_self
  rw [map_effect_performed, map_effect_performed, List.map_cons, List.map_cons, upTo, upTo, same]
  cases failed : other.effect.fails with
  | true => rfl
  | false =>
    have later := rest goodFirst fun next among => by
      apply allGood
      rw [performed, upTo, same, failed]
      exact List.mem_cons_of_mem visit among
    rw [map_effect_performed, map_effect_performed] at later
    simpa using later

/-- Agreement may be shown part by part. -/
theorem agree_append {first second firstRest secondRest : List Visit}
    (now : Agree good first second) (later : Agree good firstRest secondRest) :
    Agree good (first ++ firstRest) (second ++ secondRest) := by
  intro allGood
  have goodFirst : ∀ visit ∈ performed first, good visit := by
    intro visit among
    apply allGood
    rw [performed, upTo_append]
    split
    case isTrue => exact among
    case isFalse goesOn =>
      rw [performed, upTo_eq_self (by simpa using goesOn)] at among
      exact List.mem_append_left _ among
  have same := now goodFirst
  rw [map_effect_performed, map_effect_performed] at same
  have stopsTogether : (first.map effect).any Effect.fails = (second.map effect).any Effect.fails :=
    by rw [← any_upTo, same, any_upTo]
  rw [map_effect_performed, map_effect_performed, List.map_append, List.map_append, upTo_append,
    upTo_append, ← stopsTogether]
  cases stopped : (first.map effect).any Effect.fails with
  | true => exact same
  | false =>
    have goesOn : ∀ visit ∈ first, visit.effect.fails = false := by simpa using stopped
    have otherGoesOn : (second.map effect).any Effect.fails = false := by
      rw [← stopsTogether, stopped]
    have equal : first.map effect = second.map effect := by
      rwa [upTo_eq_self (by simpa using stopped), upTo_eq_self (by simpa using otherGoesOn)] at same
    have rest := later fun visit among => by
      apply allGood
      rw [performed, upTo_append, if_neg (by simpa using goesOn)]
      exact List.mem_append_right first among
    rw [map_effect_performed, map_effect_performed] at rest
    simp only [Bool.false_eq_true, if_false]
    rw [equal, rest]

/-- Agreement may be shown step by step along the walk. -/
theorem congruence_agree : Congruence (Agree good) :=
  ⟨agree_of_effects, agree_append⟩

end Visit
end HostTree
