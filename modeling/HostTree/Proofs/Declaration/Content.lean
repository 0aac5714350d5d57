/-
This file says which contents the keys of a node may have and what is read from them.
-/

import HostTree.Proofs.Declaration.Reading

namespace HostTree

namespace Value

/-- A flag is a truth value or a word for one, in any case. A null stands for no flag. -/
def IsFlag : Value → Prop
  | null => True
  | boolean _ => True
  | string word =>
    Text.foldCase word ∈ ["yes", "true", "on"] ∨ Text.foldCase word ∈ ["no", "false", "off"]
  | _ => False

/-- What is neither a truth value nor a word leaves the flag as usual. -/
def flag (usual : Bool) : Value → Bool
  | boolean truth => truth
  | string word => Text.foldCase word ∈ ["yes", "true", "on"]
  | _ => usual

/-- A word goes into a pattern as its text. -/
def IsWord : Value → Prop
  | boolean _ => True
  | integer _ => True
  | float _ => True
  | string _ => True
  | _ => False

/-- A pattern is a word or a list of patterns, so that no null and no mapping is inside. -/
inductive IsPattern : Value → Prop where
  | word {content : Value} (word : content.IsWord) : IsPattern content
  | sequence {items : List Value} (patterns : ∀ item ∈ items, IsPattern item) :
    IsPattern (.sequence items)

mutual

/-- A list of patterns has single spaces between its items. -/
def patternText : Value → String
  | sequence items => " ".intercalate (patternTexts items)
  | word => word.text
termination_by structural content => content

/-- Each item of a list has a text of its own. -/
def patternTexts : List Value → List String
  | [] => []
  | item :: rest => item.patternText :: patternTexts rest
termination_by structural items => items

end

/-- A child is a node or a bare name. -/
def IsChild : Value → Prop
  | mapping _ => True
  | string _ => True
  | _ => False

/-- A null stands for no children. -/
def IsFamily : Value → Prop
  | null => True
  | sequence items => ∀ item ∈ items, item.IsChild
  | _ => False

/-- Only a list has children. -/
def family : Value → List Value
  | sequence items => items
  | _ => []

/-- A list is a pattern exactly if all its items are. -/
theorem isPattern_sequence_iff {items : List Value} :
    (sequence items).IsPattern ↔ ∀ item ∈ items, item.IsPattern := by
  constructor
  · rintro (word | patterns)
    · cases word
    · exact patterns
  · exact .sequence

/-- What is no list is a pattern exactly if it is a word. -/
theorem isPattern_iff_isWord {content : Value} (single : ∀ items, content ≠ sequence items) :
    content.IsPattern ↔ content.IsWord := by
  constructor
  · rintro (word | patterns)
    · exact word
    · exact absurd rfl (single _)
  · exact .word

end Value

/-- This is the item that the child was read from. -/
def Child.item : Child → Value
  | node entries => .mapping entries
  | name pattern => .string pattern

namespace Declaration

open Value

/-- Only a flag is read as a truth value. -/
theorem readFlag_eq_ok_iff {content : Value} {usual truth : Bool} :
    readFlag content usual = .ok truth ↔ content.IsFlag ∧ content.flag usual = truth := by
  cases content with
  | string word =>
    simp only [readFlag, truthOfWord?, List.contains_iff_mem, IsFlag, flag]
    by_cases positive : Text.foldCase word ∈ ["yes", "true", "on"]
    · simp [positive]
    · by_cases negative : Text.foldCase word ∈ ["no", "false", "off"] <;>
        simp [positive, negative]
  | _ => simp [readFlag, IsFlag, flag]

mutual

/-- A pattern is read exactly from a word or from lists of words, and it is their text. -/
theorem readPattern_eq_ok_iff (content : Value) (text : String) :
    readPattern content = .ok text ↔ content.IsPattern ∧ content.patternText = text := by
  cases content with
  | sequence items =>
    have texts := readPatterns_eq_ok_iff items
    rw [readPattern, Except.map_eq_ok_iff, isPattern_sequence_iff, patternText]
    simp only [texts, and_assoc, exists_and_left, exists_eq_left']
  | _ => simp [readPattern, isPattern_iff_isWord, IsWord, patternText]
termination_by structural content

/-- Patterns are read exactly if all of them are patterns, and each gives its text. -/
theorem readPatterns_eq_ok_iff (items : List Value) (texts : List String) :
    readPatterns items = .ok texts ↔
      (∀ item ∈ items, item.IsPattern) ∧ patternTexts items = texts := by
  cases items with
  | nil => simp [readPatterns, patternTexts]
  | cons item rest =>
    have first := readPattern_eq_ok_iff item
    have others := readPatterns_eq_ok_iff rest
    have split : readPatterns (item :: rest) = (readPattern item).bind fun text =>
      (readPatterns rest).map fun texts => text :: texts := rfl
    rw [split, Except.bind_eq_ok_iff, List.forall_mem_cons, patternTexts]
    simp only [Except.map_eq_ok_iff, first, others, and_assoc, exists_and_left, exists_eq_left']
termination_by structural items

end

/-- A child is read exactly from a node or a name, and it stands for its item. -/
theorem readChild_eq_ok_iff {item : Value} {child : Child} :
    readChild item = .ok child ↔ item.IsChild ∧ child.item = item := by
  cases item <;> cases child <;> simp [readChild, IsChild, Child.item, eq_comm]

/-- Children are read exactly if all of them are nodes or names. -/
theorem mapM_readChild_eq_ok_iff {items : List Value} {children : List Child} :
    items.mapM readChild = .ok children ↔
      (∀ item ∈ items, item.IsChild) ∧ children.map Child.item = items := by
  induction items generalizing children with
  | nil => simp [pure, Except.pure, eq_comm]
  | cons item rest ih =>
    have split : (item :: rest).mapM readChild = (readChild item).bind fun child =>
        (rest.mapM readChild).map fun others => child :: others := List.mapM_cons
    rw [split, Except.bind_eq_ok_iff, List.forall_mem_cons]
    simp only [Except.map_eq_ok_iff, readChild_eq_ok_iff, ih]
    cases children with
    | nil => simp
    | cons child others =>
      simp only [List.cons.injEq, List.map_cons]
      grind

/-- A family is read exactly from a list of nodes and names. -/
theorem readChildren_eq_ok_iff {content : Value} {children : List Child} :
    readChildren content = .ok children ↔
      content.IsFamily ∧ children.map Child.item = content.family := by
  cases content with
  | sequence items => exact mapM_readChild_eq_ok_iff
  | _ => simp [readChildren, IsFamily, family, eq_comm]

end Declaration
end HostTree
