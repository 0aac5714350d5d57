/-
This file shows that settings may be laid over each other in any grouping, and that the innermost
layer with a key then brings all settings of that key.
-/

import HostTree.Setting

namespace HostTree.Setting

/-- These inherited settings stay beside the own ones. -/
def kept (inherited own : List Setting) : List Setting :=
  inherited.filter fun setting => own.all fun other => other.overrideKey != setting.overrideKey

/-- One of the settings has the key. -/
def declares (key : String) (settings : List Setting) : Bool :=
  settings.any fun setting => setting.overrideKey == key

/-- These are the settings of one key in their order. -/
def withKey (key : String) (settings : List Setting) : List Setting :=
  settings.filter fun setting => setting.overrideKey == key

/-- The outermost layer comes first. Each layer keeps the settings whose keys no layer further in
declares. -/
def survivors : List (List Setting) → List Setting
  | [] => []
  | layer :: inner => kept layer inner.flatten ++ survivors inner

/-- This is the innermost layer that declares the key. -/
def nearest (key : String) (layers : List (List Setting)) : List Setting :=
  (layers.reverse.find? (declares key)).getD []

/-- What is kept of the inherited settings comes before the own ones. -/
theorem overlay_eq_append (inherited own : List Setting) :
    overlay inherited own = kept inherited own ++ own := by
  cases inherited with
  | nil => rfl
  | cons setting rest => rfl

theorem overlay_nil (own : List Setting) : overlay [] own = own := rfl

/-- Without own settings all inherited ones stay. -/
theorem overlay_nil_right (inherited : List Setting) : overlay inherited [] = inherited := by
  simp [overlay_eq_append, kept]

/-- A setting that is kept has another key than each of the own ones. -/
theorem overrideKey_ne_of_mem_kept {inherited own : List Setting} {setting other : Setting}
    (stays : setting ∈ kept inherited own) (among : other ∈ own) :
    other.overrideKey ≠ setting.overrideKey :=
  bne_iff_ne.mp (List.all_eq_true.mp (List.mem_filter.mp stays).2 other among)

section

variable {key : String} {outer middle inner : List Setting} {layers others : List (List Setting)}

/-- The outer settings are kept whose keys the inner ones do not have. -/
theorem kept_eq_filter (outer inner : List Setting) :
    kept outer inner = outer.filter fun setting => !declares setting.overrideKey inner := by
  simp only [kept, declares, List.not_any_eq_all_not, bne]

theorem withKey_eq_nil_iff : withKey key inner = [] ↔ declares key inner = false := by
  rw [withKey, List.filter_eq_nil_iff, declares, List.any_eq_false]

theorem declares_append :
    declares key (outer ++ inner) = (declares key outer || declares key inner) :=
  List.any_append

/-- A setting of the outer layer goes only where the inner layer has its key. -/
theorem declares_overlay :
    declares key (overlay outer inner) = (declares key outer || declares key inner) := by
  rw [overlay_eq_append, declares_append, kept_eq_filter, declares, List.any_filter]
  cases inside : declares key inner with
  | true => simp
  | false =>
    rw [Bool.or_false, Bool.or_false]
    apply List.any_congr rfl
    intro setting
    by_cases same : setting.overrideKey = key <;> simp [same, inside]

/-- A setting stays beside two layers if it stays beside the one and then beside the other. -/
theorem kept_overlay : kept outer (overlay middle inner) = kept (kept outer middle) inner := by
  simp only [kept_eq_filter, List.filter_filter, declares_overlay, Bool.not_or, Bool.and_comm]

/-- Layers may be laid over each other in any grouping. -/
theorem overlay_assoc :
    overlay (overlay outer middle) inner = overlay outer (overlay middle inner) := by
  rw [overlay_eq_append outer, overlay_eq_append _ inner, overlay_eq_append outer, kept_overlay,
    kept, List.filter_append, ← kept, ← kept, overlay_eq_append middle, List.append_assoc]

/-- The inner layer has all settings of a key that it declares, and none of any other key. -/
theorem withKey_overlay : withKey key (overlay outer inner) =
    if declares key inner then withKey key inner else withKey key outer := by
  rw [overlay_eq_append, withKey, List.filter_append, ← withKey, ← withKey, kept_eq_filter, withKey,
    List.filter_filter]
  split
  · next inside =>
    rw [List.filter_eq_nil_iff.mpr, List.nil_append]
    intro setting _
    by_cases same : setting.overrideKey = key <;> simp [same, inside]
  · next outside =>
    rw [withKey_eq_nil_iff.mpr (by simpa using outside), List.append_nil, withKey]
    apply List.filter_congr
    intro setting _
    by_cases same : setting.overrideKey = key <;> simp [same, outside]

theorem declares_flatten : declares key layers.flatten = layers.any (declares key) :=
  List.any_flatten

/-- Overriding leaves the same keys. -/
theorem declares_survivors : declares key (survivors layers) = declares key layers.flatten := by
  induction layers with
  | nil => rfl
  | cons layer inner ih =>
    have survives : survivors (layer :: inner) = kept layer inner.flatten ++ survivors inner := rfl
    have both : declares key (overlay layer inner.flatten) =
        (declares key layer || declares key inner.flatten) := declares_overlay
    rw [overlay_eq_append, declares_append] at both
    rw [survives, declares_append, ih, List.flatten_cons, declares_append, both]

/-- The settings that survive are those of the layers laid over each other. -/
theorem survivors_cons (layer : List Setting) (inner : List (List Setting)) :
    survivors (layer :: inner) = overlay layer (survivors inner) := by
  simp only [overlay_eq_append, kept_eq_filter, declares_survivors, survivors]

theorem survivors_singleton (layer : List Setting) : survivors [layer] = layer := by
  rw [survivors_cons, survivors, overlay_nil_right]

/-- The survivors of two groups of layers are laid over each other. -/
theorem survivors_append :
    survivors (layers ++ others) = overlay (survivors layers) (survivors others) := by
  induction layers with
  | nil => rfl
  | cons layer inner ih =>
    rw [List.cons_append, survivors_cons, survivors_cons, ih, overlay_assoc]

/-- A layer counts only if no layer further in has the key. -/
theorem nearest_cons (layer : List Setting) (inner : List (List Setting)) :
    nearest key (layer :: inner) =
      if inner.any (declares key) then nearest key inner
      else if declares key layer then layer else [] := by
  rw [nearest, List.reverse_cons, List.find?_append, List.find?_singleton, nearest]
  cases found : inner.reverse.find? (declares key) with
  | none =>
    have outside : inner.any (declares key) = false := by
      simpa using found
    rw [outside, Option.none_or]
    cases declares key layer <;> rfl
  | some declaring =>
    have inside : inner.any (declares key) = true := by
      have among := List.mem_reverse.mp (List.mem_of_find?_eq_some found)
      exact List.any_eq_true.mpr ⟨declaring, among, List.find?_some found⟩
    rw [inside]
    rfl

/-- Of each key exactly the settings of the innermost layer that declares it survive. -/
theorem withKey_survivors (key : String) (layers : List (List Setting)) :
    withKey key (survivors layers) = withKey key (nearest key layers) := by
  induction layers with
  | nil => rfl
  | cons layer inner ih =>
    rw [survivors_cons, withKey_overlay, declares_survivors, declares_flatten, nearest_cons]
    split
    · exact ih
    · split
      · rfl
      · next outside => exact withKey_eq_nil_iff.mpr (by simpa using outside)

end

end HostTree.Setting
