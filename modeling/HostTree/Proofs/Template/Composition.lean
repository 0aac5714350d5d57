/-
This file resolves the parts of a template on their own and puts the results together.
-/

import HostTree.Proofs.Template.Grammar

namespace HostTree

/-- Any value but a mapping is put into a template as a whole. -/
def Value.IsScalar (item : Value) : Prop :=
  ∀ entries, item ≠ .mapping entries

namespace Template

variable {item : Value}

/-- A scalar answers to its own name only. -/
theorem fillItem_of_isScalar (scalar : item.IsScalar) (segments : List Segment) :
    fillItem item segments = fill (answerWhole item) segments := by
  cases item with
  | mapping entries => exact absurd rfl (scalar entries)
  | _ => rfl

/-- Two lists of segments are filled one after the other. -/
theorem fill_append (answer : String → Option String) (first second : List Segment) :
    fill answer (first ++ second) =
      fill answer first >>= fun front => (fill answer second).map (front ++ ·) := by
  induction first with
  | nil =>
    change fill answer second = (fill answer second).map id
    cases fill answer second <;> rfl
  | cons segment rest ih =>
    cases segment with
    | literal character =>
      rw [List.cons_append, fill, fill, ih]
      cases fill answer rest with
      | error flaw => rfl
      | ok front => cases fill answer second <;> rfl
    | placeholder name =>
      rw [List.cons_append, fill, fill]
      cases answer (String.ofList name) with
      | none => rfl
      | some part =>
        dsimp only
        rw [ih]
        cases fill answer rest with
        | error flaw => rfl
        | ok front =>
          change ((fill answer second).map (front ++ ·)).map (part.toList ++ ·) =
            (fill answer second).map (part.toList ++ front ++ ·)
          cases fill answer second with
          | error flaw => rfl
          | ok back => exact congrArg Except.ok (List.append_assoc _ _ _).symm

/-- Two lists of segments are filled exactly if each of them is. -/
theorem fill_append_eq_ok_iff {answer : String → Option String} {first second : List Segment}
    {text : List Char} : fill answer (first ++ second) = .ok text ↔
      ∃ front back, fill answer first = .ok front ∧ fill answer second = .ok back ∧
        text = front ++ back := by
  rw [fill_append]
  cases fill answer first with
  | error flaw => simp [bind, Except.bind]
  | ok front => cases fill answer second <;> simp [bind, Except.bind, Except.map, eq_comm]

/-- Literal characters are filled in as they are, whatever the item is. -/
theorem fillItem_map_literal (item : Value) (text : List Char) :
    fillItem item (text.map Segment.literal) = .ok text := by
  have whole := fillItem_literals item text []
  rw [List.append_nil] at whole
  rw [whole]
  cases item <;> exact congrArg Except.ok (List.append_nil text)

/-- Literal characters are written as the escaped text. -/
theorem write_map_literal (text : List Char) : write (text.map Segment.literal) = escape text := by
  induction text with
  | nil => rfl
  | cons character rest ih => rw [List.map_cons, write_cons, token_literal, ih, ← escape_cons]

/-- A template is resolved exactly if it can be read and filled. -/
theorem resolve_eq_ok_iff {template text : String} :
    resolve template (some item) = .ok text ↔
      ∃ segments, read template.toList = .ok segments ∧
        fillItem item segments = .ok text.toList := by
  rw [← Except.toOption_eq_some_iff, toOption_resolve, Option.map_eq_some_iff]
  constructor
  · rintro ⟨filled, found, rfl⟩
    obtain ⟨segments, success, fills⟩ := Option.bind_eq_some_iff.mp found
    rw [String.toList_ofList]
    exact ⟨segments, Except.toOption_eq_some_iff.mp success, Except.toOption_eq_some_iff.mp fills⟩
  · rintro ⟨segments, success, fills⟩
    refine ⟨text.toList, ?_, String.ofList_toList⟩
    rw [success, Except.toOption, Option.bind_some, fills]
    rfl

/-- What is read of a template is what is read of its parts, if the first one is balanced. -/
theorem read_append_eq_ok_iff {first : List Segment} (sound : Sound first) {back : List Char}
    {segments : List Segment} :
    read (write first ++ back) = .ok segments ↔
      ∃ second, read back = .ok second ∧ segments = first ++ second := by
  have parts : (read (write first ++ back)).toOption = (read back).toOption.map (first ++ ·) := by
    rw [read, readFrom_write sound, Except.toOption_map, read, toOption_readFrom .outside]
  rw [← Except.toOption_eq_some_iff, parts, Option.map_eq_some_iff]
  simp only [Except.toOption_eq_some_iff, eq_comm (a := segments)]

/-- The segments are filled in the same way before any others. -/
def FillsApart (item : Value) (segments : List Segment) : Prop :=
  ∀ others text, fillItem item (segments ++ others) = .ok text ↔
    ∃ front back, fillItem item segments = .ok front ∧ fillItem item others = .ok back ∧
      text = front ++ back

/-- With a scalar each part of a template is filled alone. -/
theorem fillsApart_of_isScalar (scalar : item.IsScalar) (segments : List Segment) :
    FillsApart item segments := by
  intro others text
  simp only [fillItem_of_isScalar scalar]
  exact fill_append_eq_ok_iff

/-- Literal characters are filled alone, whatever the item is. -/
theorem fillsApart_of_literals (item : Value) (stem : List Char) :
    FillsApart item (stem.map Segment.literal) := by
  intro others text
  rw [fillItem_literals, fillItem_map_literal]
  cases fillItem item others <;> simp [Except.map, eq_comm]

/-- A text without a placeholder is the escaped form of a text. -/
theorem WithoutPlaceholder.exists_escape {text : List Char} (literal : WithoutPlaceholder text) :
    ∃ stem, text = escape stem := by
  obtain ⟨tokens, each, rfl⟩ := literal
  induction tokens with
  | nil => exact ⟨[], rfl⟩
  | cons token rest ih =>
    obtain ⟨now, later⟩ := List.forall_mem_cons.mp each
    obtain ⟨character, rfl⟩ := exists_character_of_literalToken now
    obtain ⟨stem, written⟩ := ih later
    exact ⟨character :: stem, by rw [List.flatten_cons, written, ← escape_cons]⟩

theorem sound_map_literal (stem : List Char) : Sound (stem.map Segment.literal) := by
  refine List.forall_mem_map.mpr fun character _ => ?_
  rw [token_literal]
  exact .literal (literalToken_escape character)

/-- The segments of a balanced template without placeholders, or with a scalar item, do not depend
on what follows. -/
theorem exists_fillsApart {front : List Char} (balanced : Balanced front)
    (neutral : item.IsScalar ∨ WithoutPlaceholder front) :
    ∃ segments : List Segment, front = write segments ∧ Sound segments ∧
      FillsApart item segments := by
  rcases neutral with scalar | literal
  · obtain ⟨tokens, composes⟩ := balanced
    obtain ⟨segments, _, written, sound⟩ := composes.exists_segments
    exact ⟨segments, written, sound, fillsApart_of_isScalar scalar segments⟩
  · obtain ⟨stem, rfl⟩ := literal.exists_escape
    exact ⟨stem.map Segment.literal, (write_map_literal stem).symm, sound_map_literal stem,
      fillsApart_of_literals item stem⟩

/-- A balanced template resolves on its own, whatever follows it, unless it has placeholders and the
item is a mapping. -/
theorem resolve_append_of_balanced_eq_ok_iff {first : String} (balanced : Balanced first.toList)
    (neutral : item.IsScalar ∨ WithoutPlaceholder first.toList) (second text : String) :
    resolve (first ++ second) (some item) = .ok text ↔
      ∃ front back, resolve first (some item) = .ok front ∧
        resolve second (some item) = .ok back ∧ text = front ++ back := by
  obtain ⟨segments, written, sound, apart⟩ := exists_fillsApart balanced neutral
  have readFirst : read first.toList = .ok segments := by rw [written, read_write sound]
  simp only [resolve_eq_ok_iff, String.toList_append]
  constructor
  · rintro ⟨all, success, fills⟩
    rw [written, read_append_eq_ok_iff sound] at success
    obtain ⟨others, readSecond, rfl⟩ := success
    obtain ⟨front, back, fillsFirst, fillsSecond, split⟩ := (apart others _).mp fills
    refine ⟨String.ofList front, String.ofList back, ⟨segments, readFirst, ?_⟩,
      ⟨others, readSecond, ?_⟩, ?_⟩
    · rwa [String.toList_ofList]
    · rwa [String.toList_ofList]
    · rw [← String.ofList_append, ← split, String.ofList_toList]
  · rintro ⟨front, back, ⟨found, success, fillsFirst⟩, ⟨others, readSecond, fillsSecond⟩, rfl⟩
    obtain rfl := Except.ok.inj (readFirst.symm.trans success)
    refine ⟨segments ++ others, ?_, ?_⟩
    · rw [written, read_append_eq_ok_iff sound]
      exact ⟨others, readSecond, rfl⟩
    · rw [apart, String.toList_append]
      exact ⟨_, _, fillsFirst, fillsSecond, rfl⟩

/-- This is the placeholder for the item as a whole. -/
def itemPlaceholder : String :=
  "\x7bitem\x7d"

theorem balanced_itemPlaceholder : Balanced itemPlaceholder.toList := by
  refine ⟨[itemPlaceholder.toList], List.forall_mem_singleton.mpr ?_, List.append_nil _⟩
  have plain : Plain itemName.toList := by simp [Plain, itemName]
  exact .placeholder plain

/-- The placeholder of the item resolves to the item. -/
theorem resolve_itemPlaceholder (scalar : item.IsScalar) :
    resolve itemPlaceholder (some item) = .ok item.text := by
  have readName : read itemPlaceholder.toList = .ok [.placeholder itemName.toList] := rfl
  rw [resolve_eq_ok_iff]
  refine ⟨_, readName, ?_⟩
  rw [fillItem_of_isScalar scalar]
  exact congrArg Except.ok (List.append_nil _)

/-- The parts of a template are resolved each on its own if the first one is balanced, and if it has
no placeholder where the item is a mapping. The text of an item is not read again, whatever braces
it has and whatever follows it. -/
theorem resolve_in_parts {first : String} (balanced : Balanced first.toList)
    (neutral : item.IsScalar ∨ WithoutPlaceholder first.toList) (second text : String) :
    (resolve (first ++ second) (some item) = .ok text ↔
      ∃ front back, resolve first (some item) = .ok front ∧
        resolve second (some item) = .ok back ∧ text = front ++ back) ∧
    (item.IsScalar → (resolve (itemPlaceholder ++ second) (some item) = .ok text ↔
      ∃ back, resolve second (some item) = .ok back ∧ text = item.text ++ back)) := by
  refine ⟨resolve_append_of_balanced_eq_ok_iff balanced neutral second text, fun scalar => ?_⟩
  rw [resolve_append_of_balanced_eq_ok_iff balanced_itemPlaceholder (.inl scalar),
    resolve_itemPlaceholder scalar]
  simp

/-- Neither the braces of the item nor those behind the first part pair up with any others. -/
theorem resolve_in_parts_braces :
    let item := Value.string "\x7bitem\x7d"
    let first := "\x7b\x7ba\x7bitem\x7d"
    item.IsScalar ∧ Balanced first.toList ∧
      resolve (first ++ "\x7d\x7d\x7bitem\x7d") (some item) =
        .ok "\x7ba\x7bitem\x7d\x7d\x7bitem\x7d" := by
  intro item first
  have scalar : item.IsScalar := fun _ => nofun
  have success : read first.toList =
      .ok [.literal '{', .literal 'a', .placeholder itemName.toList] :=
    Except.toOption_eq_some_iff.mp (by decide +kernel)
  have balanced : Balanced first.toList := exists_read_iff.mp ⟨_, success⟩
  have front : resolve first (some item) = .ok "\x7ba\x7bitem\x7d" :=
    Except.toOption_eq_some_iff.mp (by decide +kernel)
  have back : resolve "\x7d\x7d\x7bitem\x7d" (some item) = .ok "\x7d\x7bitem\x7d" :=
    Except.toOption_eq_some_iff.mp (by decide +kernel)
  exact ⟨scalar, balanced,
    (resolve_in_parts balanced (.inl scalar) _ _).1.mpr ⟨_, _, front, back, by decide⟩⟩

end Template
end HostTree
