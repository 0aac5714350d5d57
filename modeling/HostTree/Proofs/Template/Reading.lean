/-
This file reads templates at any offset and fills in literal characters.
-/

import HostTree.Template

namespace HostTree

theorem Except.toOption_map {Cause First Second : Type} (change : First → Second)
    (result : Except Cause First) : (result.map change).toOption = result.toOption.map change := by
  cases result <;> rfl

theorem Except.toOption_eq_some_iff {Cause Content : Type} {result : Except Cause Content}
    {content : Content} : result.toOption = some content ↔ result = .ok content := by
  cases result <;> simp [Except.toOption]

namespace Template

/-- A text without braces is a template for itself. -/
def Plain (text : List Char) : Prop :=
  ∀ character ∈ text, character ≠ '{' ∧ character ≠ '}'

/-- Two positions are alike when they differ in the offset of the opening brace only. -/
inductive Position.Alike : Position → Position → Prop where
  | outside : Alike .outside .outside
  | inside (opening other : Nat) (reversedName : List Char) :
    Alike (.inside opening reversedName) (.inside other reversedName)

/-- The offsets show in failures only. -/
theorem toOption_readFrom {offset : Nat} {position : Position} {text : List Char}
    {other : Nat} {otherPosition : Position} (alike : position.Alike otherPosition) :
    (readFrom offset position text).toOption = (readFrom other otherPosition text).toOption := by
  fun_induction readFrom offset position text generalizing other otherPosition with
  | case1 =>
    cases alike
    rfl
  | case2 offset rest ih =>
    cases alike
    rw [readFrom, Except.toOption_map, Except.toOption_map, ih .outside]
  | case3 offset rest ih =>
    cases alike
    rw [readFrom, Except.toOption_map, Except.toOption_map, ih .outside]
  | case4 offset rest single ih =>
    cases alike
    rw [readFrom.eq_4 other rest single, ih (.inside offset other [])]
  | case5 offset rest single =>
    cases alike
    rw [readFrom.eq_5 other rest single]
    rfl
  | case6 offset character rest notOpening notClosing notLeft notRight ih =>
    cases alike
    rw [readFrom.eq_6 other character rest notOpening notClosing notLeft notRight,
      Except.toOption_map, Except.toOption_map, ih .outside]
  | case7 offset opening reversedName rest ih =>
    cases alike
    rw [readFrom, Except.toOption_map, Except.toOption_map, ih .outside]
  | case8 offset opening reversedName rest =>
    cases alike
    rfl
  | case9 offset opening reversedName =>
    cases alike
    rfl
  | case10 offset opening reversedName character rest notRight notLeft ih =>
    cases alike with
    | inside _ otherOpening =>
      rw [readFrom.eq_10 other otherOpening reversedName character rest notRight notLeft,
        ih (.inside opening otherOpening (character :: reversedName))]

/-- A character that is no brace reads as itself. -/
theorem readFrom_cons {offset : Nat} {character : Char} (left : character ≠ '{')
    (right : character ≠ '}') (rest : List Char) :
    readFrom offset .outside (character :: rest) =
      (readFrom (offset + character.utf8Size) .outside rest).map (.literal character :: ·) :=
  readFrom.eq_6 offset character rest (fun _ same => absurd same left)
    (fun _ same => absurd same right) left right

/-- Literal characters are copied. -/
theorem fill_literals (answer : String → Option String) (stem : List Char)
    (segments : List Segment) :
    fill answer (stem.map Segment.literal ++ segments) =
      (fill answer segments).map (stem ++ ·) := by
  induction stem with
  | nil =>
    rw [List.map_nil, List.nil_append]
    cases fill answer segments <;> rfl
  | cons character rest ih =>
    rw [List.map_cons, List.cons_append, fill, ih]
    cases fill answer segments <;> rfl

/-- Literal characters are copied, whatever the item is. -/
theorem fillItem_literals (item : Value) (stem : List Char) (segments : List Segment) :
    fillItem item (stem.map Segment.literal ++ segments) =
      (fillItem item segments).map (stem ++ ·) := by
  unfold fillItem
  cases item with
  | mapping entries =>
    dsimp only
    rw [fill_literals, fill_literals]
    cases fill (answerFlat entries) segments <;> rfl
  | _ => exact fill_literals _ stem segments

/-- Resolving is reading and filling. -/
theorem toOption_resolve (template : String) (item : Value) :
    (resolve template (some item)).toOption =
      ((read template.toList).toOption.bind fun segments =>
        (fillItem item segments).toOption).map String.ofList := by
  rw [resolve]
  cases read template.toList with
  | error flaw => rfl
  | ok segments =>
    dsimp only [bind, Except.bind, Except.toOption, Option.bind_some]
    cases fillItem item segments <;> rfl

end Template
end HostTree
