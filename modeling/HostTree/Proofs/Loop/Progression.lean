/-
This file shows that the elements of a range are the numbers of its progression before the stop.
-/

import HostTree.Loop
import Mathlib.Algebra.Order.Ring.Int
import Mathlib.Data.List.TakeWhile
import Mathlib.Data.Set.Card

namespace HostTree.Range

/-- A positive step leads up to the stop, and a negative one leads down to it. -/
def Before (range : Range) (number : Int) : Prop :=
  if 0 < range.step.toInt then number < range.stop.toInt else range.stop.toInt < number

/-- The progression itself has no end. -/
def number (range : Range) (position : Nat) : Int :=
  range.start.toInt + position * range.step.toInt

/-- These are the numbers of the progression that come before the stop, each at its position. -/
def Lists (range : Range) (numbers : List Int64) : Prop :=
  ∀ position number, numbers[position]? = some number ↔
    number.toInt = range.number position ∧ range.Before number.toInt

/-- Loops may run over such a range. -/
structure IsAdmissible (range : Range) : Prop where
  moves : range.step ≠ 0
  few : range.count ≤ maximumCount

variable {range : Range} {position : Nat}

instance : Decidable range.IsAdmissible :=
  decidable_of_iff (range.step ≠ 0 ∧ range.count ≤ maximumCount)
    ⟨fun parts => ⟨parts.1, parts.2⟩, fun admissible => ⟨admissible.moves, admissible.few⟩⟩

theorem fitting?_eq_some_iff {number : Int} {element : Int64} :
    fitting? number = some element ↔ element.toInt = number := by
  unfold fitting?
  constructor
  · intro found
    split at found
    · next fits =>
      cases found
      exact Int64.toInt_ofInt_of_le fits.1 (Int.lt_of_le_sub_one fits.2)
    · cases found
  · rintro rfl
    rw [if_pos ⟨element.minValue_le_toInt, element.toInt_le⟩, Int64.ofInt_toInt]

theorem lt_ceiling_iff {span step : Nat} (positive : 0 < step) :
    position < (span + step - 1) / step ↔ position * step < span := by
  rw [Nat.lt_iff_add_one_le, Nat.le_div_iff_mul_le positive, Nat.add_one_mul]
  omega

/-- The full count is that of the positions before the stop. -/
theorem lt_fullCount_iff (moves : range.step ≠ 0) :
    position < range.fullCount ↔ range.Before (range.number position) := by
  have nonzero : range.step.toInt ≠ 0 := fun zero => moves (Int64.toInt_inj.mp zero)
  have positive : 0 < range.step.toInt.natAbs := Int.natAbs_pos.mpr nonzero
  unfold fullCount Before number
  dsimp only
  rw [lt_ceiling_iff positive, Int.lt_toNat, Nat.cast_mul, Int.natCast_natAbs]
  by_cases up : 0 < range.step.toInt
  · rw [if_pos up, if_pos up, abs_of_pos up]
    omega
  · have down : range.step.toInt ≤ 0 := Int.not_lt.mp up
    rw [if_neg up, if_neg up, abs_of_nonpos down, mul_neg]
    omega

theorem count_le_iff : range.count ≤ maximumCount ↔ range.fullCount ≤ maximumCount := by
  unfold count
  omega

theorem IsAdmissible.count_eq (admissible : range.IsAdmissible) :
    range.count = range.fullCount := by
  have few := count_le_iff.mp admissible.few
  unfold count
  omega

/-- A number before the stop lies between the start and the stop, so that it does not overflow. -/
theorem toInt_ofInt_number (before : range.Before (range.number position)) :
    (Int64.ofInt (range.number position)).toInt = range.number position := by
  have start := range.start.le_toInt
  have startBelow := range.start.toInt_lt
  have stop := range.stop.le_toInt
  have stopBelow := range.stop.toInt_lt
  have inside : -2 ^ 63 ≤ range.number position ∧ range.number position < 2 ^ 63 := by
    unfold Before number at before
    rw [number]
    split at before
    case isTrue up =>
      have forward : 0 ≤ position * range.step.toInt :=
        mul_nonneg (Int.natCast_nonneg position) up.le
      omega
    case isFalse down =>
      have backward : position * range.step.toInt ≤ 0 :=
        mul_nonpos_of_nonneg_of_nonpos (Int.natCast_nonneg position) (Int.not_lt.mp down)
      omega
  exact Int64.toInt_ofInt_of_le inside.1 inside.2

/-- No element is cut off. -/
theorem elements_eq (admissible : range.IsAdmissible) :
    range.elements = (List.range range.count).map fun position =>
      Int64.ofInt (range.number position) := by
  have fit : (List.range range.count).map range.element? =
      ((List.range range.count).map fun position => Int64.ofInt (range.number position)).map
        some := by
    rw [List.map_map]
    apply List.map_congr_left
    intro position inside
    rw [List.mem_range, admissible.count_eq, lt_fullCount_iff admissible.moves] at inside
    exact fitting?_eq_some_iff.mpr (toInt_ofInt_number inside)
  rw [elements, fit, List.takeWhile_eq_self_iff.mpr (by simp), List.filterMap_map]
  exact List.filterMap_some

theorem length_elements (admissible : range.IsAdmissible) :
    range.elements.length = range.count := by
  rw [elements_eq admissible, List.length_map, List.length_range]

/-- The elements of a range are its numbers before the stop. None is lost, and none overflows. -/
theorem lists_elements (admissible : range.IsAdmissible) : range.Lists range.elements := by
  intro position number
  rw [elements_eq admissible, List.getElem?_map, Option.map_eq_some_iff]
  simp only [List.getElem?_eq_some_iff, List.length_range, List.getElem_range, exists_prop,
    admissible.count_eq, lt_fullCount_iff admissible.moves]
  constructor
  · rintro ⟨_, ⟨before, rfl⟩, rfl⟩
    rw [toInt_ofInt_number before]
    exact ⟨rfl, before⟩
  · rintro ⟨same, before⟩
    rw [same] at before
    refine ⟨position, ⟨before, rfl⟩, ?_⟩
    rw [← Int64.toInt_inj, toInt_ofInt_number before, same]

theorem Lists.eq {numbers others : List Int64} (first : range.Lists numbers)
    (second : range.Lists others) : numbers = others := by
  apply List.ext_getElem?
  intro position
  apply Option.ext
  intro number
  rw [first, second]

theorem checked_eq_ok_iff {start stop step : Int64} :
    checked start stop step = .ok range ↔ range = ⟨start, stop, step⟩ ∧ range.IsAdmissible := by
  unfold checked
  dsimp only
  constructor
  · intro accepted
    split_ifs at accepted with zero many
    cases accepted
    exact ⟨rfl, zero, Nat.not_lt.mp many⟩
  · rintro ⟨rfl, admissible⟩
    rw [if_neg admissible.moves, if_neg (Nat.not_lt.mpr admissible.few)]

/-- These are the positions of the numbers before the stop. -/
def positions (range : Range) : Set Nat :=
  {position | range.Before (range.number position)}

theorem encard_positions (moves : range.step ≠ 0) : range.positions.encard = range.fullCount := by
  simp only [positions, ← lt_fullCount_iff moves]
  exact Set.Nat.encard_range range.fullCount

theorem isAdmissible_iff :
    range.IsAdmissible ↔ range.step ≠ 0 ∧ range.positions.encard ≤ maximumCount := by
  constructor
  · intro admissible
    rw [encard_positions admissible.moves, Nat.cast_le, ← count_le_iff]
    exact ⟨admissible.moves, admissible.few⟩
  · rintro ⟨moves, few⟩
    rw [encard_positions moves, Nat.cast_le, ← count_le_iff] at few
    exact ⟨moves, few⟩

/-- The numbers are all those of the progression before the stop, in their order. -/
structure Enumerates (range : Range) (numbers : List Int64) : Prop where
  length : numbers.length = range.positions.encard
  exact : ∀ position (inside : position < numbers.length),
    numbers[position].toInt = range.number position
  before : ∀ number ∈ numbers, range.Before number.toInt
  monotone : numbers.Pairwise fun first second =>
    if 0 < range.step.toInt then first < second else second < first
  exhausted : ¬ range.Before (range.number numbers.length)

/-- The numbers go up with a positive step and down with a negative one. -/
theorem number_monotone (moves : range.step ≠ 0) {first second : Nat} (earlier : first < second) :
    if 0 < range.step.toInt then range.number first < range.number second
      else range.number second < range.number first := by
  have nonzero : range.step.toInt ≠ 0 := fun zero => moves (Int64.toInt_inj.mp zero)
  have apart : (first : Int) < second := Int.ofNat_lt.mpr earlier
  unfold number
  split
  case isTrue up => exact Int.add_lt_add_left (Int.mul_lt_mul_of_pos_right apart up) _
  case isFalse down =>
    have negative : range.step.toInt < 0 := by omega
    exact Int.add_lt_add_left (Int.mul_lt_mul_of_neg_right apart negative) _

theorem toInt_getElem_elements (admissible : range.IsAdmissible)
    (inside : position < range.elements.length) :
    range.elements[position].toInt = range.number position :=
  ((lists_elements admissible position _).mp (List.getElem?_eq_getElem inside)).1

theorem enumerates_elements (admissible : range.IsAdmissible) :
    range.Enumerates range.elements where
  length := by
    rw [length_elements admissible, encard_positions admissible.moves, admissible.count_eq]
  exact position inside := toInt_getElem_elements admissible inside
  before number among := by
    obtain ⟨position, place⟩ := List.getElem?_of_mem among
    exact ((lists_elements admissible position number).mp place).2
  monotone := by
    rw [List.pairwise_iff_getElem]
    intro first second insideFirst insideSecond earlier
    rw [Int64.lt_iff_toInt_lt, Int64.lt_iff_toInt_lt,
      toInt_getElem_elements admissible insideFirst, toInt_getElem_elements admissible insideSecond]
    exact number_monotone admissible.moves earlier
  exhausted := by
    rw [length_elements admissible, admissible.count_eq, ← lt_fullCount_iff admissible.moves]
    exact Nat.lt_irrefl _

/-- A range is accepted if and only if it moves and has no more numbers before its stop than loops
may have turns. An accepted range has exactly these numbers as its elements, whatever bounds of
sixty-four bits it has. -/
theorem checked_counts_numbers (start stop step : Int64) :
    ((∃ range, checked start stop step = .ok range) ↔
      step ≠ 0 ∧ (Range.mk start stop step).positions.encard ≤ 65536) ∧
    ∀ range, checked start stop step = .ok range → range = ⟨start, stop, step⟩ ∧
      (Loop.range range).count = range.positions.encard ∧
      ∃ numbers, range.Enumerates numbers ∧
        (Loop.range range).elements = numbers.map Value.integer := by
  constructor
  · simp only [checked_eq_ok_iff, exists_eq_left]
    exact isAdmissible_iff
  · intro range accepted
    obtain ⟨same, admissible⟩ := checked_eq_ok_iff.mp accepted
    refine ⟨same, ?_, range.elements, enumerates_elements admissible, rfl⟩
    rw [encard_positions admissible.moves, ← admissible.count_eq]
    rfl

/-- The numbers are those at the ends of what sixty-four bits hold, and the step is as great. -/
theorem checked_counts_numbers_extreme :
    let range : Range := ⟨Int64.minValue, Int64.maxValue, Int64.maxValue⟩
    checked Int64.minValue Int64.maxValue Int64.maxValue = .ok range ∧
      (Loop.range range).count = range.positions.encard ∧ (Loop.range range).count = 3 := by
  intro range
  have accepted : checked Int64.minValue Int64.maxValue Int64.maxValue = .ok range := by decide
  obtain ⟨_, counted, _⟩ := (checked_counts_numbers _ _ _).2 range accepted
  exact ⟨accepted, counted, by decide⟩

end HostTree.Range
