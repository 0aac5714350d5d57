/-
This file says how ranges are written and shows that every range that is read was written so.
-/

import HostTree.Proofs.Declaration.Reading
import HostTree.Proofs.Entries.Insertion
import HostTree.Proofs.Loop.Progression
import Mathlib.Data.List.Induction

namespace HostTree

namespace Range

/-- The mapping holds the numbers of the range. A start that is missing is zero, and a step that is
missing is one. The last entry of a name counts. -/
structure IsOfFields (range : Range) (entries : List (String × Value)) : Prop where
  names : ∀ entry ∈ entries, entry.1 ∈ ["start", "stop", "step"]
  start : (Entries.get? "start" entries.reverse).getD (.integer 0) = .integer range.start
  stop : Entries.get? "stop" entries.reverse = some (.integer range.stop)
  step : (Entries.get? "step" entries.reverse).getD (.integer 1) = .integer range.step

/-- A bound is a number in decimal digits, perhaps with zeros before them. -/
inductive IsBound : List Char → Int → Prop where
  | positive {digits : List Char} (some : digits ≠ [])
    (decimal : ∀ character ∈ digits, character.isDigit) :
    IsBound digits (Nat.ofDigitChars 10 digits 0)
  | negative {digits : List Char} (some : digits ≠ [])
    (decimal : ∀ character ∈ digits, character.isDigit) :
    IsBound ('-' :: digits) (-Nat.ofDigitChars 10 digits 0)

/-- Commas stand between the bounds and a closing parenthesis behind them. Blanks may surround each
bound and follow the parenthesis. -/
inductive AreBounds : List Char → List Int64 → Prop where
  | last {before bound after behind : List Char} {number : Int64}
    (blankBefore : before.all Text.isBlank) (written : IsBound bound number.toInt)
    (blankAfter : after.all Text.isBlank) (blankBehind : behind.all Text.isBlank) :
    AreBounds (before ++ bound ++ after ++ ')' :: behind) [number]
  | more {before bound after rest : List Char} {number : Int64} {numbers : List Int64}
    (blankBefore : before.all Text.isBlank) (written : IsBound bound number.toInt)
    (blankAfter : after.all Text.isBlank) (others : AreBounds rest numbers) :
    AreBounds (before ++ bound ++ after ++ ',' :: rest) (number :: numbers)

/-- A stop may stand alone, and the step may be missing. -/
def ofBounds? : List Int64 → Option Range
  | [stop] => some ⟨0, stop, 1⟩
  | [start, stop] => some ⟨start, stop, 1⟩
  | [start, stop, step] => some ⟨start, stop, step⟩
  | _ => none

/-- A range is written as a mapping or as an expression. -/
inductive IsWritten (range : Range) : Value → Prop where
  | mapping {entries : List (String × Value)} (fields : range.IsOfFields entries) :
    range.IsWritten (.mapping entries)
  | expression {before rest : List Char} {numbers : List Int64}
    (blank : before.all Text.isBlank) (bounds : AreBounds rest numbers)
    (numbered : ofBounds? numbers = some range) :
    range.IsWritten (.string (String.ofList (before ++ "range(".toList ++ rest)))

end Range

namespace Loop

namespace Fields

/-- This is the content of a field. Only the stop may have none. -/
def content? (fields : Fields) (name : String) : Option Value :=
  if name = "start" then some (.integer fields.start)
  else if name = "stop" then fields.stop.map .integer
  else if name = "step" then some (.integer fields.step)
  else none

theorem of_assign {fields next : Fields} {name : String} {content : Value}
    (assigned : fields.assign name content = .ok next) :
    name ∈ ["start", "stop", "step"] ∧ ∀ other,
      next.content? other = if name = other then some content else fields.content? other := by
  unfold assign at assigned
  split at assigned
  · next number =>
    -- Each of the three names is compared with the other name.
    split_ifs at assigned with start stop step <;> cases assigned <;> subst name
    all_goals
      refine ⟨by simp, fun other => ?_⟩
      unfold content?
      grind
  · cases assigned

theorem of_assignAll {fields last : Fields} {entries : List (String × Value)}
    (assigned : entries.foldlM (fun fields entry => fields.assign entry.1 entry.2) fields =
      .ok last) :
    (∀ entry ∈ entries, entry.1 ∈ ["start", "stop", "step"]) ∧ ∀ name,
      last.content? name = (Entries.get? name entries.reverse).or (fields.content? name) := by
  -- The last entry comes first in the reversed list, so that it is the one that is found.
  induction entries using List.reverseRecOn generalizing last with
  | nil =>
    cases assigned
    exact ⟨by simp, fun name => rfl⟩
  | append_singleton entries entry ih =>
    rw [List.foldlM_append] at assigned
    obtain ⟨before, earlier, now⟩ := Except.exists_of_bind_eq_ok assigned
    simp only [List.foldlM_cons, List.foldlM_nil, bind_pure] at now
    obtain ⟨names, contents⟩ := ih earlier
    obtain ⟨own, changed⟩ := of_assign now
    refine ⟨List.forall_mem_append.mpr ⟨names, by simpa using own⟩, fun name => ?_⟩
    rw [changed, contents, List.reverse_append, List.reverse_singleton, List.singleton_append,
      Entries.get?_cons]
    split <;> rfl

end Fields

theorem isOfFields_of_ofMapping {entries : List (String × Value)} {range : Range}
    (read : ofMapping entries = .ok range) :
    range.IsOfFields entries ∧ range.IsAdmissible := by
  obtain ⟨fields, assigned, accepted⟩ := Except.exists_of_bind_eq_ok read
  obtain ⟨names, contents⟩ := Fields.of_assignAll assigned
  have start := contents "start"
  have stop := contents "stop"
  have step := contents "step"
  split at accepted
  · cases accepted
  · next last found =>
    obtain ⟨rfl, admissible⟩ := Range.checked_eq_ok_iff.mp accepted
    simp only [Fields.content?, found, String.reduceEq, if_true, if_false, Option.map_some,
      Option.map_none, Option.or_none, Option.or_some] at start stop step
    exact ⟨⟨names, (Option.some.inj start).symm, stop.symm, (Option.some.inj step).symm⟩,
      admissible⟩

end Loop

namespace Range

/-- The blanks that are dropped stand before the rest. -/
theorem exists_blanks (text : List Char) :
    ∃ blanks, blanks.all Text.isBlank ∧ text = blanks ++ Text.dropBlanks text :=
  ⟨text.takeWhile Text.isBlank, List.all_takeWhile, List.takeWhile_append_dropWhile.symm⟩

/-- A bound has a digit, which is no minus sign. -/
theorem of_bound? {text bound rest : List Char} (read : bound? text = some (bound, rest)) :
    text = bound ++ rest ∧ bound ≠ [] ∧ bound ≠ ['-'] := by
  have joined (unsigned : List Char) :
      unsigned.takeWhile Text.isDigit ++ unsigned.dropWhile Text.isDigit = unsigned :=
    List.takeWhile_append_dropWhile
  have inside : ∀ character ∈ text.takeWhile Text.isDigit, Text.isDigit character :=
    List.all_eq_true.mp List.all_takeWhile
  unfold bound? at read
  split at read
  next sign unsigned cut =>
  dsimp only at read
  split at read
  · cases read
  · next some =>
    cases read
    rw [List.isEmpty_iff] at some
    split at cut <;> cases cut
    · exact ⟨by simp [joined], by simp, by simpa using some⟩
    · refine ⟨by simp [joined], by simpa using some, fun minus => ?_⟩
      rw [List.nil_append] at minus
      rw [minus] at inside
      exact absurd (inside '-' (List.mem_singleton_self _)) (by decide)

/-- The value is that of the digits and has sixty-four bits. -/
theorem of_boundValue? {bound : List Char} {number : Int64}
    (valued : boundValue? bound = some number) :
    ∃ digits : List Char, (∀ character ∈ digits, character.isDigit) ∧
      (bound = '-' :: digits ∧ number.toInt = -Nat.ofDigitChars 10 digits 0 ∨
        bound = digits ∧ number.toInt = Nat.ofDigitChars 10 digits 0) := by
  unfold boundValue? at valued
  split at valued
  next negative digits cut =>
  dsimp only at valued
  split at valued
  · next decimal =>
    refine ⟨digits, List.all_eq_true.mp decimal, ?_⟩
    split at cut <;> cases cut
    · exact .inl ⟨rfl, fitting?_eq_some_iff.mp valued⟩
    · exact .inr ⟨rfl, fitting?_eq_some_iff.mp valued⟩
  · cases valued

theorem isBound_of_bound? {text bound rest : List Char}
    (read : bound? text = some (bound, rest)) {number : Int64}
    (valued : boundValue? bound = some number) :
    text = bound ++ rest ∧ IsBound bound number.toInt := by
  obtain ⟨joined, present, signed⟩ := of_bound? read
  obtain ⟨digits, decimal, ⟨rfl, same⟩ | ⟨rfl, same⟩⟩ := of_boundValue? valued
  · rw [same]
    exact ⟨joined, .negative (by simpa using signed) decimal⟩
  · rw [same]
    exact ⟨joined, .positive present decimal⟩

theorem forall₂_of_mapM {bounds : List (List Char)} {numbers : List Int64}
    (valued : bounds.mapM boundValue = .ok numbers) :
    List.Forall₂ (fun bound number => boundValue? bound = some number) bounds numbers := by
  induction bounds generalizing numbers with
  | nil =>
    cases valued
    exact .nil
  | cons bound rest ih =>
    rw [List.mapM_cons] at valued
    obtain ⟨number, now, next⟩ := Except.exists_of_bind_eq_ok valued
    obtain ⟨others, later, same⟩ := Except.exists_of_bind_eq_ok next
    cases same
    refine .cons ?_ (ih later)
    unfold boundValue at now
    split at now
    · next found =>
      cases now
      exact found
    · cases now

theorem areBounds_of_bounds? {limit : Nat} {text : List Char} {bounds : List (List Char)}
    (read : bounds? limit text = some bounds) {numbers : List Int64}
    (valued : List.Forall₂ (fun bound number => boundValue? bound = some number) bounds numbers) :
    AreBounds text numbers := by
  induction limit generalizing text bounds numbers with
  | zero => cases read
  | succ limit ih =>
    unfold bounds? at read
    obtain ⟨⟨bound, afterBound⟩, first, next⟩ := Option.bind_eq_some_iff.mp read
    obtain ⟨before, blankBefore, textSplit⟩ := exists_blanks text
    obtain ⟨after, blankAfter, afterSplit⟩ := exists_blanks afterBound
    dsimp only at next
    split at next
    · next rest comma =>
      obtain ⟨others, later, same⟩ := Option.bind_eq_some_iff.mp next
      cases same
      cases valued with
      | cons value values =>
      obtain ⟨joined, written⟩ := isBound_of_bound? first value
      rw [textSplit, joined, afterSplit, comma]
      simpa using AreBounds.more blankBefore written blankAfter (ih later values)
    · next rest parenthesis =>
      split at next
      · next ends =>
        cases next
        cases valued with
        | cons value values =>
        cases values
        obtain ⟨joined, written⟩ := isBound_of_bound? first value
        rw [textSplit, joined, afterSplit, parenthesis]
        obtain ⟨behind, blankBehind, restSplit⟩ := exists_blanks rest
        rw [List.isEmpty_iff.mp ends, List.append_nil] at restSplit
        rw [restSplit]
        simpa using AreBounds.last blankBefore written blankAfter blankBehind
      · cases next
    · cases next

theorem of_expressionBounds? {text : List Char} {bounds : List (List Char)}
    (read : expressionBounds? text = some bounds) :
    ∃ before rest, before.all Text.isBlank ∧ text = before ++ "range(".toList ++ rest ∧
      bounds? 3 rest = some bounds := by
  obtain ⟨before, blank, split⟩ := exists_blanks text
  unfold expressionBounds? at read
  split at read
  · next rest word =>
    refine ⟨before, rest, blank, ?_, read⟩
    rw [split, word, List.append_assoc]
    rfl
  · cases read

theorem isWritten_of_ofExpression {expression : String} {range : Range}
    (read : ofExpression expression = .ok range) :
    range.IsWritten (.string expression) ∧ range.IsAdmissible := by
  unfold ofExpression at read
  split at read
  · cases read
  next bounds found =>
  obtain ⟨before, rest, blank, split, inside⟩ := of_expressionBounds? found
  obtain ⟨numbers, valued, accepted⟩ := Except.exists_of_bind_eq_ok read
  have written := areBounds_of_bounds? inside (forall₂_of_mapM valued)
  have numbered : ofBounds? numbers = some range ∧ range.IsAdmissible := by
    split at accepted
    case h_4 => cases accepted
    all_goals
      obtain ⟨rfl, admissible⟩ := checked_eq_ok_iff.mp accepted
      exact ⟨rfl, admissible⟩
  rw [← String.ofList_toList (s := expression), split]
  exact ⟨.expression blank written numbered.1, numbered.2⟩

end Range

/-- Whatever is read as a range is written as this range, and loops may run over it. -/
theorem Loop.isWritten_of_ofValue {content : Value} {range : Range}
    (read : ofValue content = .ok (some (.range range))) :
    range.IsWritten content ∧ range.IsAdmissible := by
  unfold ofValue at read
  split at read
  · cases read
  · cases read
  · next entries =>
    obtain ⟨found, mapped, same⟩ := Except.exists_of_map_eq_ok read
    cases same
    obtain ⟨fields, admissible⟩ := isOfFields_of_ofMapping mapped
    exact ⟨.mapping fields, admissible⟩
  · next expression =>
    obtain ⟨found, mapped, same⟩ := Except.exists_of_map_eq_ok read
    cases same
    exact Range.isWritten_of_ofExpression mapped
  · cases read

end HostTree
