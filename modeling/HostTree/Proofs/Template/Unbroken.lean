/-
This file shows that templates have no line breaks besides those of their parts.
-/

import HostTree.Proofs.Declaration.Reading
import HostTree.Proofs.Template.Reading
import HostTree.Proofs.Value.Unbroken

namespace HostTree.Template

/-- A list with a new first content holds this content and those that were there. -/
theorem mem_of_map_cons {Cause Content : Type} {result : Except Cause (List Content)}
    {first : Content} {contents : List Content} (mapped : result.map (first :: ·) = .ok contents)
    {content : Content} (among : content ∈ contents) :
    content = first ∨ ∃ others, result = .ok others ∧ content ∈ others := by
  obtain ⟨others, success, rfl⟩ := Except.exists_of_map_eq_ok mapped
  exact (List.mem_cons.mp among).imp_right fun later => ⟨others, success, later⟩

/-- The literal characters of a template come from its text. -/
theorem mem_of_literal_mem {offset : Nat} {position : Position} {text : List Char}
    {segments : List Segment} (read : readFrom offset position text = .ok segments)
    {character : Char} (among : .literal character ∈ segments) : character ∈ text := by
  fun_induction readFrom offset position text generalizing segments with
  | case1 =>
    cases read
    cases among
  | case2 offset rest ih | case3 offset rest ih =>
    -- A doubled brace is two characters of the text, and the first of them is the literal one.
    rcases mem_of_map_cons read among with same | ⟨others, readRest, later⟩
    · cases same
      exact List.mem_cons_self
    · exact List.mem_cons_of_mem _ (List.mem_cons_of_mem _ (ih readRest later))
  | case4 offset rest single ih => exact List.mem_cons_of_mem _ (ih read among)
  | case5 => cases read
  | case6 offset first rest _ _ _ _ ih =>
    rcases mem_of_map_cons read among with same | ⟨others, readRest, later⟩
    · cases same
      exact List.mem_cons_self
    · exact List.mem_cons_of_mem _ (ih readRest later)
  | case7 offset opening reversedName rest ih =>
    rcases mem_of_map_cons read among with same | ⟨others, readRest, later⟩
    · cases same
    · exact List.mem_cons_of_mem _ (ih readRest later)
  | case8 => cases read
  | case9 => cases read
  | case10 offset opening reversedName first rest _ _ ih =>
    exact List.mem_cons_of_mem _ (ih read among)

/-- Each character of a filled template stands in a literal part or in an answer. -/
theorem origin_of_mem_fill {answer : String → Option String} {segments : List Segment}
    {text : List Char} (filled : fill answer segments = .ok text) {character : Char}
    (among : character ∈ text) :
    .literal character ∈ segments ∨
      ∃ name part, answer name = some part ∧ character ∈ part.toList := by
  induction segments generalizing text with
  | nil =>
    cases filled
    cases among
  | cons segment rest ih =>
    cases segment with
    | literal first =>
      rcases mem_of_map_cons filled among with rfl | ⟨others, filledRest, later⟩
      · exact .inl List.mem_cons_self
      · exact (ih filledRest later).imp_left (List.mem_cons_of_mem _)
    | placeholder name =>
      rw [fill] at filled
      cases answered : answer (String.ofList name) with
      | none =>
        rw [answered] at filled
        cases filled
      | some part =>
        rw [answered] at filled
        obtain ⟨others, filledRest, rfl⟩ := Except.exists_of_map_eq_ok filled
        rcases List.mem_append.mp among with now | later
        · exact .inr ⟨_, part, answered, now⟩
        · exact (ih filledRest later).imp_left (List.mem_cons_of_mem _)

variable {item : Value}

/-- A whole item without line breaks brings none into a template. -/
theorem unbroken_answerWhole (unbroken : item.Unbroken) {name part : String}
    (answered : answerWhole item name = some part) : Text.Unbroken part := by
  unfold answerWhole at answered
  split at answered
  · cases answered
    exact Value.unbroken_text unbroken
  · cases answered

/-- A content without line breaks brings none into a template under its key. -/
theorem unbroken_answerFlat {entries : List (String × Value)}
    (contents : ∀ entry ∈ entries, entry.2.Unbroken) {name part : String}
    (answered : answerFlat entries name = some part) : Text.Unbroken part := by
  obtain ⟨content, found, rfl⟩ := Option.map_eq_some_iff.mp answered
  obtain ⟨entry, first, rfl⟩ := Option.map_eq_some_iff.mp found
  exact Value.unbroken_text (contents entry (List.mem_of_find?_eq_some first))

/-- A content without line breaks brings none into a template under a dotted name. -/
theorem unbroken_answerDotted {entries : List (String × Value)}
    (unbroken : (Value.mapping entries).Unbroken) {name part : String}
    (answered : answerDotted entries name = some part) : Text.Unbroken part := by
  unfold answerDotted at answered
  split at answered
  · cases unbroken with
    | mapping keys contents => exact unbroken_answerFlat contents answered
  · exact unbroken_answerWhole unbroken answered

/-- A filled template is unbroken if its literal parts and the item are. -/
theorem unbroken_fillItem (unbroken : item.Unbroken) {segments : List Segment}
    (literals : .literal '\n' ∉ segments) {text : List Char}
    (filled : fillItem item segments = .ok text) : '\n' ∉ text := by
  have byAnswers {answer : String → Option String} (success : fill answer segments = .ok text)
      (parts : ∀ name part, answer name = some part → Text.Unbroken part) : '\n' ∉ text := by
    intro among
    rcases origin_of_mem_fill success among with literal | ⟨name, part, answered, broken⟩
    · exact literals literal
    · exact parts name part answered broken
  unfold fillItem at filled
  split at filled
  · next entries =>
    split at filled
    · next flat =>
      cases filled
      cases unbroken with
      | mapping keys contents => exact byAnswers flat fun _ _ => unbroken_answerFlat contents
    · exact byAnswers filled fun _ _ => unbroken_answerDotted unbroken
  · exact byAnswers filled fun _ _ => unbroken_answerWhole unbroken

/-- A template and an item without line breaks give a text on one line. -/
theorem unbroken_resolve {template : String} (line : Text.Unbroken template)
    {item : Option Value} (unbroken : ∀ value ∈ item, value.Unbroken) {text : String}
    (resolved : resolve template item = .ok text) : Text.Unbroken text := by
  cases item with
  | none =>
    cases resolved
    exact line
  | some item =>
    rw [resolve] at resolved
    cases found : read template.toList with
    | error flaw =>
      rw [found] at resolved
      cases resolved
    | ok segments =>
      rw [found] at resolved
      dsimp only [bind, Except.bind] at resolved
      cases filled : fillItem item segments with
      | error flaw =>
        rw [filled] at resolved
        cases resolved
      | ok characters =>
        rw [filled] at resolved
        cases resolved
        have literals : .literal '\n' ∉ segments := fun broken =>
          line (mem_of_literal_mem found broken)
        exact Text.unbroken_ofList.mpr (unbroken_fillItem (unbroken item rfl) literals filled)

/-- A content and an item without line breaks give a text on one line. -/
theorem unbroken_resolveValue {content : Value} (line : content.Unbroken) {item : Option Value}
    (unbroken : ∀ value ∈ item, value.Unbroken) {text : String}
    (resolved : resolveValue content item = .ok text) : Text.Unbroken text := by
  unfold resolveValue at resolved
  split at resolved
  · cases line with
    | string line => exact unbroken_resolve line unbroken resolved
  · cases resolved
    exact Value.unbroken_text line

end HostTree.Template
