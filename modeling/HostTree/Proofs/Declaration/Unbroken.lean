/-
This file shows that reading an unbroken value gives unbroken declarations.
-/

import HostTree.Proofs.Declaration.Change
import HostTree.Proofs.Outline.Children
import HostTree.Proofs.Value.Unbroken

namespace HostTree

/-- No line ends inside a text that the declaration writes. -/
structure Declaration.Unbroken (declaration : Declaration) : Prop where
  pattern : ∀ pattern ∈ declaration.pattern, Text.Unbroken pattern
  loop : ∀ loop ∈ declaration.loop, ∀ value ∈ loop.elements, value.Unbroken
  settings : ∀ setting ∈ declaration.settings, setting.content.Unbroken

/-- A loop without line breaks has items without line breaks. -/
theorem Loop.unbroken_ofValue {content : Value} (line : content.Unbroken) {loop : Loop}
    (read : ofValue content = .ok (some loop)) : ∀ value ∈ loop.elements, value.Unbroken := by
  have ofRange {result : Except LoopFlaw Range}
      (success : result.map (some ∘ Loop.range) = .ok (some loop)) :
      ∀ value ∈ loop.elements, value.Unbroken := by
    obtain ⟨progression, _, same⟩ := Except.exists_of_map_eq_ok success
    cases same
    exact List.forall_mem_map.mpr fun number _ => .integer number
  cases line with
  | null => cases read
  | boolean truth => cases read
  | integer number => cases read
  | float number => cases read
  | string line => exact ofRange read
  | sequence each =>
    cases read
    exact each
  | mapping keys contents => exact ofRange read

namespace Declaration

/-- Each pattern of a list is the pattern of one of its items. -/
theorem mem_readPatterns {items : List Value} {patterns : List String}
    (read : readPatterns items = .ok patterns) :
    ∀ pattern ∈ patterns, ∃ item ∈ items, readPattern item = .ok pattern := by
  induction items generalizing patterns with
  | nil =>
    cases read
    exact fun pattern among => absurd among List.not_mem_nil
  | cons item rest ih =>
    obtain ⟨first, readFirst, read⟩ := Except.exists_of_bind_eq_ok read
    obtain ⟨others, readRest, read⟩ := Except.exists_of_bind_eq_ok read
    cases read
    intro pattern among
    rcases List.mem_cons.mp among with rfl | later
    · exact ⟨item, List.mem_cons_self, readFirst⟩
    · obtain ⟨other, present, readOther⟩ := ih readRest pattern later
      exact ⟨other, List.mem_cons_of_mem _ present, readOther⟩

/-- A pattern without line breaks stays so when the parts of a list are joined. -/
theorem unbroken_readPattern {content : Value} (line : content.Unbroken) {pattern : String}
    (read : readPattern content = .ok pattern) : Text.Unbroken pattern := by
  induction line generalizing pattern with
  | null => cases read
  | mapping keys contents => cases read
  | sequence each ih =>
    obtain ⟨patterns, readItems, rfl⟩ := Except.exists_of_map_eq_ok read
    refine Text.unbroken_intercalate (by decide) fun part among => ?_
    obtain ⟨item, present, readItem⟩ := mem_readPatterns readItems part among
    exact ih item present readItem
  | string line =>
    cases read
    exact line
  | boolean truth =>
    cases read
    exact Value.unbroken_text (.boolean truth)
  | integer number =>
    cases read
    exact Value.unbroken_text (.integer number)
  | float number =>
    cases read
    exact Value.unbroken_text (.float number)

theorem of_blame {Content : Type} {key : String} {result : Except DirectiveFlaw Content}
    {content : Content} (success : blame key result = .ok content) : result = .ok content := by
  cases result with
  | error flaw => cases success
  | ok other =>
    cases success
    rfl

/-- An entry without line breaks brings none into the node. -/
theorem unbroken_changeOf {key : String} {content : Value} (line : content.Unbroken)
    {change : Declaration → Declaration} (read : changeOf key content = .ok change)
    {declaration : Declaration} (unbroken : declaration.Unbroken) :
    (change declaration).Unbroken := by
  obtain ⟨pattern, loop, settings⟩ := unbroken
  unfold changeOf at read
  split at read
  · obtain ⟨_, _, rfl⟩ := Except.exists_of_map_eq_ok read
    exact ⟨pattern, loop, settings⟩
  · obtain ⟨_, _, rfl⟩ := Except.exists_of_map_eq_ok read
    exact ⟨pattern, loop, settings⟩
  · obtain ⟨_, _, rfl⟩ := Except.exists_of_map_eq_ok read
    exact ⟨pattern, loop, settings⟩
  · obtain ⟨found, readLoop, rfl⟩ := Except.exists_of_map_eq_ok read
    refine ⟨pattern, ?_, settings⟩
    rintro other rfl
    cases loaded : Loop.ofValue content with
    | error flaw =>
      rw [loaded] at readLoop
      cases readLoop
    | ok some =>
      rw [loaded] at readLoop
      cases readLoop
      exact Loop.unbroken_ofValue line loaded
  · obtain ⟨_, _, rfl⟩ := Except.exists_of_map_eq_ok read
    exact ⟨pattern, loop, settings⟩
  · obtain ⟨text, readText, rfl⟩ := Except.exists_of_map_eq_ok read
    refine ⟨?_, loop, settings⟩
    rintro other same
    cases same
    exact unbroken_readPattern line (of_blame readText)
  · cases read
    refine ⟨pattern, loop, ?_⟩
    intro setting among
    rcases List.mem_append.mp among with before | added
    · exact settings setting before
    · cases List.mem_singleton.mp added
      exact line

/-- Entries without line breaks bring none into the node, one after the other. -/
theorem Draft.unbroken_addAll {entries : List (String × Value)}
    (lines : ∀ entry ∈ entries, entry.2.Unbroken) {draft last : Draft}
    (unbroken : draft.declaration.Unbroken) (read : draft.addAll entries = .ok last) :
    last.declaration.Unbroken := by
  induction entries generalizing draft with
  | nil =>
    cases read
    exact unbroken
  | cons entry rest ih =>
    obtain ⟨now, later⟩ := List.forall_mem_cons.mp lines
    rw [addAll_cons, add_eq] at read
    obtain ⟨next, added, readRest⟩ := Except.exists_of_bind_eq_ok read
    obtain ⟨childrenKey, _, changed⟩ := Except.exists_of_bind_eq_ok added
    obtain ⟨change, readEntry, rfl⟩ := Except.exists_of_map_eq_ok changed
    exact ih later (unbroken_changeOf now readEntry unbroken) readRest

/-- A node without line breaks in its entries has none in its parts. -/
theorem unbroken_ofEntries {entries : List (String × Value)}
    (lines : ∀ entry ∈ entries, entry.2.Unbroken) {declaration : Declaration}
    (read : ofEntries entries = .ok declaration) : declaration.Unbroken := by
  rw [ofEntries_eq_map] at read
  obtain ⟨last, readAll, rfl⟩ := Except.exists_of_map_eq_ok read
  refine Draft.unbroken_addAll lines ⟨?_, ?_, ?_⟩ readAll <;> simp

end Declaration

namespace Outline

/-- All declarations of the outline are unbroken. -/
inductive Unbroken : Outline → Prop where
  | invalid (failure : Failure) : Unbroken (invalid failure)
  | node {declaration : Declaration} {children : List Outline} (own : declaration.Unbroken)
    (below : ∀ child ∈ children, Unbroken child) : Unbroken (node declaration children)

/-- The outlines of the items come along, because the children of a node are items of an entry. -/
theorem unbroken_ofValue {value : Value} (line : value.Unbroken) : (ofValue value).Unbroken := by
  have both : (ofValue value).Unbroken ∧ ∀ item ∈ value.items, (ofValue item).Unbroken := by
    induction line with
    | null => exact ⟨.invalid _, fun item among => absurd among List.not_mem_nil⟩
    | boolean truth => exact ⟨.invalid _, fun item among => absurd among List.not_mem_nil⟩
    | integer number => exact ⟨.invalid _, fun item among => absurd among List.not_mem_nil⟩
    | float number => exact ⟨.invalid _, fun item among => absurd among List.not_mem_nil⟩
    | string line =>
      refine ⟨.node ⟨?_, ?_, ?_⟩ ?_, fun item among => absurd among List.not_mem_nil⟩
      · rintro pattern same
        cases same
        exact line
      all_goals simp [Declaration.named]
    | sequence each ih => exact ⟨.invalid _, fun item among => (ih item among).1⟩
    | @mapping entries keys contents ih =>
      refine ⟨?_, fun item among => absurd among List.not_mem_nil⟩
      cases read : Declaration.ofEntries entries with
      | error failure =>
        rw [ofValue_of_failure read]
        exact .invalid failure
      | ok declaration =>
        rw [ofValue_of_success read]
        refine .node (Declaration.unbroken_ofEntries contents read) ?_
        refine List.forall_mem_map.mpr fun item among => ?_
        obtain ⟨entry, present, inside⟩ := Entries.mem_childItems among
        exact (ih entry present).2 item inside
  exact both.1

/-- A document without line breaks has outlines without line breaks. -/
theorem unbroken_ofDocument {document : Value} (line : document.Unbroken) :
    ∀ outline ∈ ofDocument document, outline.Unbroken := by
  cases line with
  | null => exact fun outline among => absurd among List.not_mem_nil
  | sequence each =>
    rw [ofDocument, ofItems_eq_map]
    exact List.forall_mem_map.mpr fun item among => unbroken_ofValue (each item among)
  | mapping keys contents =>
    exact List.forall_mem_singleton.mpr (unbroken_ofValue (.mapping keys contents))
  | _ => exact List.forall_mem_singleton.mpr (.invalid _)

end Outline
end HostTree
