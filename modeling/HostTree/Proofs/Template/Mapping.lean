/-
This file shows that a mapping answers the names of a template in one of two ways.
-/

import HostTree.Proofs.Template.Substitution

namespace HostTree

/-- Something is found exactly under the keys that are there. -/
theorem Entries.exists_get?_iff {Content : Type} {name : String}
    {entries : List (String × Content)} :
    (∃ content, get? name entries = some content) ↔ name ∈ entries.map Prod.fst := by
  rw [← Option.isSome_iff_exists, get?, Option.isSome_map, List.find?_isSome, List.mem_map]
  simp only [beq_iff_eq]

namespace Template

/-- A key is a name for the text of its content. -/
inductive FlatMeaning (entries : List (String × Value)) : String → String → Prop where
  | key {name : String} {content : Value} (found : Entries.get? name entries = some content) :
    FlatMeaning entries name content.text

/-- A key has the item and a point before it, and the item alone is a name for all entries
together. -/
inductive DottedMeaning (entries : List (String × Value)) : String → String → Prop where
  | whole : DottedMeaning entries "item" (Value.mapping entries).text
  | part {key : String} {content : Value} (found : Entries.get? key entries = some content) :
    DottedMeaning entries ("item." ++ key) content.text

/-- The placeholder names a key of the item. -/
def IsKey (entries : List (String × Value)) (name : String) : Prop :=
  name ∈ entries.map Prod.fst

/-- The placeholder names the whole item or one of its keys behind a dot. -/
def IsDotted (entries : List (String × Value)) (name : String) : Prop :=
  name = "item" ∨ ∃ key, IsKey entries key ∧ name = "item." ++ key

section Mapping

variable {entries : List (String × Value)} {name text : String}

/-- The first attempt gives a placeholder the meaning of a key. -/
theorem answerFlat_eq_some_iff :
    answerFlat entries name = some text ↔ FlatMeaning entries name text := by
  rw [answerFlat, Option.map_eq_some_iff]
  constructor
  · rintro ⟨content, found, rfl⟩
    exact .key found
  · intro meant
    cases meant with
    | key found => exact ⟨_, found, rfl⟩

/-- A dotted name is the name of the item, a dot and a key. -/
theorem dottedKey?_eq_some_iff {key : String} :
    dottedKey? name = some key ↔ name = "item." ++ key := by
  rw [← String.toList_inj, String.toList_append, dottedKey?]
  constructor
  · intro found
    split at found
    · next letters split =>
      cases found
      simp [split]
    · cases found
  · intro written
    rw [written]
    exact congrArg some String.ofList_toList

/-- The second attempt gives a placeholder the meaning of a dotted name. -/
theorem answerDotted_eq_some_iff :
    answerDotted entries name = some text ↔ DottedMeaning entries name text := by
  unfold answerDotted
  constructor
  · intro answered
    split at answered
    · next key dotted =>
      rw [dottedKey?_eq_some_iff.mp dotted]
      cases answerFlat_eq_some_iff.mp answered with
      | key found => exact .part found
    · unfold answerWhole at answered
      split at answered
      · next same =>
        cases answered
        rw [same]
        exact .whole
      · cases answered
  · intro meant
    cases meant with
    | whole => rfl
    | part found =>
      rw [dottedKey?_eq_some_iff.mpr rfl]
      exact answerFlat_eq_some_iff.mpr (.key found)

/-- A placeholder has a meaning as a key exactly when it is one. -/
theorem exists_flatMeaning_iff : (∃ text, FlatMeaning entries name text) ↔ IsKey entries name := by
  simp only [← answerFlat_eq_some_iff, answerFlat, Option.map_eq_some_iff]
  rw [IsKey, ← Entries.exists_get?_iff]
  exact exists_comm.trans (exists_congr fun content => by simp)

/-- A placeholder has a meaning as a dotted name exactly when it is one. -/
theorem exists_dottedMeaning_iff :
    (∃ text, DottedMeaning entries name text) ↔ IsDotted entries name := by
  constructor
  · rintro ⟨text, meant⟩
    cases meant with
    | whole => exact .inl rfl
    | part found => exact .inr ⟨_, exists_flatMeaning_iff.mp ⟨_, .key found⟩, rfl⟩
  · rintro (rfl | ⟨key, known, rfl⟩)
    · exact ⟨_, .whole⟩
    · obtain ⟨content, found⟩ := Entries.exists_get?_iff.mpr known
      exact ⟨_, .part found⟩

instance : Decidable (IsKey entries name) :=
  inferInstanceAs (Decidable (name ∈ entries.map Prod.fst))

instance : Decidable (IsDotted entries name) :=
  decidable_of_iff ((answerDotted entries name).isSome)
    (by simp only [Option.isSome_iff_exists, answerDotted_eq_some_iff, exists_dottedMeaning_iff])

variable {segments : List Segment}

/-- The first attempt succeeds exactly when each placeholder names a key. -/
theorem exists_fillFlat_iff :
    (∃ text, fill (answerFlat entries) segments = .ok text) ↔
      AllNamed (IsKey entries) (segments.map Segment.token) := by
  rw [exists_fill_iff fun _ _ => answerFlat_eq_some_iff]
  simp only [exists_flatMeaning_iff]

/-- The second attempt succeeds exactly when each placeholder is a dotted name. -/
theorem exists_fillDotted_iff :
    (∃ text, fill (answerDotted entries) segments = .ok text) ↔
      AllNamed (IsDotted entries) (segments.map Segment.token) := by
  rw [exists_fill_iff fun _ _ => answerDotted_eq_some_iff]
  simp only [exists_dottedMeaning_iff]

/-- If each placeholder names a key, then the first attempt decides. -/
theorem fillItem_of_keys (keys : AllNamed (IsKey entries) (segments.map Segment.token)) :
    fillItem (.mapping entries) segments = fill (answerFlat entries) segments := by
  obtain ⟨text, filled⟩ := exists_fillFlat_iff.mpr keys
  rw [fillItem, filled]

/-- Nothing is left of the first attempt when it fails. -/
theorem fillItem_of_other (other : ¬ AllNamed (IsKey entries) (segments.map Segment.token)) :
    fillItem (.mapping entries) segments = fill (answerDotted entries) segments := by
  rw [← exists_fillFlat_iff] at other
  cases failed : fill (answerFlat entries) segments with
  | ok text => exact absurd ⟨text, failed⟩ other
  | error flaw => rw [fillItem, failed]

end Mapping

variable {item : Value} {template : String} {segments : List Segment}

/-- A template that is composed of tokens is resolved to what its segments are filled with. -/
theorem resolve_of_composes (composes : Composes Token (segments.map Segment.token) template.toList)
    (text : String) :
    resolve template (some item) = .ok text ↔ fillItem item segments = .ok text.toList := by
  simp [resolve_eq_ok_iff, read_eq_ok_iff.mpr composes]

/-- The flaw of the filling is the flaw of the template. -/
theorem resolve_eq_error_of_composes
    (composes : Composes Token (segments.map Segment.token) template.toList) {flaw : TemplateFlaw}
    (failed : fillItem item segments = .error flaw) :
    resolve template (some item) = .error (.malformedTemplate template flaw) := by
  have whole : read template.toList >>= fillItem item = .error flaw := by
    rw [read_eq_ok_iff.mpr composes, ← failed]
    rfl
  rw [resolve, whole]

/-- A template is resolved exactly when its placeholders are all keys or all dotted names. -/
theorem exists_resolve_iff (entries : List (String × Value))
    (composes : Composes Token (segments.map Segment.token) template.toList) :
    (∃ text, resolve template (some (.mapping entries)) = .ok text) ↔
      AllNamed (IsKey entries) (segments.map Segment.token) ∨
        AllNamed (IsDotted entries) (segments.map Segment.token) := by
  have fills : (∃ text, resolve template (some (.mapping entries)) = .ok text) ↔
      ∃ characters, fillItem (.mapping entries) segments = .ok characters := by
    simp only [resolve_of_composes composes]
    exact ⟨fun ⟨text, filled⟩ => ⟨text.toList, filled⟩,
      fun ⟨characters, filled⟩ => ⟨String.ofList characters, by rwa [String.toList_ofList]⟩⟩
  rw [fills]
  by_cases keys : AllNamed (IsKey entries) (segments.map Segment.token)
  · simp only [fillItem_of_keys keys, exists_fillFlat_iff, keys, true_or]
  · simp only [fillItem_of_other keys, exists_fillDotted_iff, keys, false_or]

/-- A mapping answers all names of a template in one way, and never some of them in one way and
some in the other. Its keys come first. Only if some name is no key are the names those of the item
and of what is behind its point, whatever keys there are besides. -/
theorem resolve_in_one_mode (entries : List (String × Value)) {template : String}
    {tokens : List (List Char)} (composes : Composes Token tokens template.toList) :
    ((∃ text, resolve template (some (.mapping entries)) = .ok text) ↔
      AllNamed (IsKey entries) tokens ∨ AllNamed (IsDotted entries) tokens) ∧
    (AllNamed (IsKey entries) tokens → ∀ text,
      resolve template (some (.mapping entries)) = .ok text ↔
        Substituted (FlatMeaning entries) tokens text) ∧
    (¬ AllNamed (IsKey entries) tokens → ∀ text,
      resolve template (some (.mapping entries)) = .ok text ↔
        Substituted (DottedMeaning entries) tokens text) ∧
    ((∀ name, placeholder name ∉ tokens) →
      ∃ text, resolve template (some (.mapping entries)) = .ok text) := by
  obtain ⟨segments, rfl, _, _⟩ := composes.exists_segments
  have flat (keys : AllNamed (IsKey entries) (segments.map Segment.token)) (text : String) :
      resolve template (some (.mapping entries)) = .ok text ↔
        Substituted (FlatMeaning entries) (segments.map Segment.token) text := by
    rw [resolve_of_composes composes, fillItem_of_keys keys]
    exact fill_eq_ok_iff fun _ _ => answerFlat_eq_some_iff
  have dotted (other : ¬ AllNamed (IsKey entries) (segments.map Segment.token)) (text : String) :
      resolve template (some (.mapping entries)) = .ok text ↔
        Substituted (DottedMeaning entries) (segments.map Segment.token) text := by
    rw [resolve_of_composes composes, fillItem_of_other other]
    exact fill_eq_ok_iff fun _ _ => answerDotted_eq_some_iff
  have succeeds := exists_resolve_iff entries composes
  refine ⟨succeeds, flat, dotted, fun none => succeeds.mpr (.inl fun name among => ?_)⟩
  exact absurd among (none name)

/-- The name of the item is a key here, but the other name is none, so that the first one stands for
all entries together. -/
theorem resolve_in_one_mode_item :
    let entries := [("item", Value.string "a"), ("x", .string "b")]
    let tokens := [placeholder "item", [' '], placeholder "item.x"]
    Composes Token tokens "\x7bitem\x7d \x7bitem.x\x7d".toList ∧
      ¬ AllNamed (IsKey entries) tokens ∧
      resolve "\x7bitem\x7d \x7bitem.x\x7d" (some (.mapping entries)) = .ok "item=a x=b b" := by
  intro entries tokens
  have composes : Composes Token tokens "\x7bitem\x7d \x7bitem.x\x7d".toList := by
    have segments : tokens = [Segment.placeholder "item".toList, .literal ' ',
      .placeholder "item.x".toList].map Segment.token := by decide
    rw [segments, ← read_eq_ok_iff]
    rfl
  have other : ¬ AllNamed (IsKey entries) tokens := fun keys => by
    have key := keys "item.x" (by simp [tokens])
    simp [IsKey, entries] at key
  have whole : (Value.mapping entries).text = "item=a x=b" := by decide
  have first : Becomes (DottedMeaning entries) (placeholder "item") "item=a x=b".toList :=
    whole ▸ .placeholder .whole
  have second : Becomes (DottedMeaning entries) (placeholder "item.x") "b".toList :=
    .placeholder (DottedMeaning.part (rfl : Entries.get? "x" entries = some (.string "b")))
  have space : Becomes (DottedMeaning entries) [' '] [' '] := .literal ' '
  have substituted : Substituted (DottedMeaning entries) tokens "item=a x=b b" :=
    ⟨["item=a x=b".toList, [' '], "b".toList], .cons first (.cons space (.cons second .nil)),
      by decide⟩
  exact ⟨composes, other, ((resolve_in_one_mode entries composes).2.2.1 other _).mpr substituted⟩

/-- Where a mapping does not know a name, the first name that is not dotted is blamed. This is the
first unknown one if and only if no key comes before it that is not dotted. -/
theorem culprit_of_mapping {entries : List (String × Value)} {template : String}
    {front rest : List (List Char)} {name : String}
    (composes : Composes Token (front ++ placeholder name :: rest) template.toList)
    (known : AllNamed (fun other => IsKey entries other ∨ IsDotted entries other) front)
    (unknown : ¬ (IsKey entries name ∨ IsDotted entries name)) :
    ∃ culprit before behind,
      front ++ placeholder name :: rest = before ++ placeholder culprit :: behind ∧
      AllNamed (IsDotted entries) before ∧ ¬ IsDotted entries culprit ∧
      resolve template (some (.mapping entries)) =
        .error (.malformedTemplate template (.unknownPlaceholder culprit)) ∧
      (culprit = name ↔ AllNamed (IsDotted entries) front) := by
  obtain ⟨noKey, notDotted⟩ := not_or.mp unknown
  have among : placeholder name ∈ front ++ placeholder name :: rest := by simp
  have notAllDotted : ¬ AllNamed (IsDotted entries) (front ++ placeholder name :: rest) :=
    fun all => notDotted (all name among)
  obtain ⟨culprit, before, behind, split, dotted, blamed⟩ :=
    exists_first_of_not_allNamed notAllDotted
  refine ⟨culprit, before, behind, split, dotted, blamed, ?_,
    AllNamed.first_eq_iff (fun _ => .inr) split known unknown dotted blamed⟩
  obtain ⟨segments, written, _, _⟩ := composes.exists_segments
  rw [written] at composes
  refine resolve_eq_error_of_composes composes ?_
  rw [fillItem_of_other fun keys => noKey (keys name (written ▸ among))]
  apply fill_eq_error (fun _ _ => answerDotted_eq_some_iff) (written.symm.trans split)
  · simpa only [exists_dottedMeaning_iff]
  · rwa [exists_dottedMeaning_iff]

/-- All names before the unknown one are dotted, and a key comes after it. -/
theorem culprit_of_mapping_dotted :
    let entries := [("a", Value.integer 1)]
    let template := "\x7bitem.a\x7d\x7bb\x7d\x7ba\x7d"
    Composes Token ([placeholder "item.a"] ++ placeholder "b" :: [placeholder "a"])
        template.toList ∧
      IsDotted entries "item.a" ∧ ¬ (IsKey entries "b" ∨ IsDotted entries "b") ∧
      resolve template (some (.mapping entries)) =
        .error (.malformedTemplate template (.unknownPlaceholder "b")) := by
  intro entries template
  have composes : Composes Token ([placeholder "item.a"] ++ placeholder "b" :: [placeholder "a"])
      template.toList := by
    have segments : [placeholder "item.a"] ++ placeholder "b" :: [placeholder "a"] =
        [Segment.placeholder "item.a".toList, .placeholder "b".toList,
          .placeholder "a".toList].map Segment.token := by decide
    rw [segments, ← read_eq_ok_iff]
    decide +kernel
  have dotted : IsDotted entries "item.a" := by decide
  have unknown : ¬ (IsKey entries "b" ∨ IsDotted entries "b") := by decide
  have front : AllNamed (IsDotted entries) [placeholder "item.a"] := fun name among => by
    rwa [placeholder_injective (List.mem_singleton.mp among)]
  obtain ⟨culprit, _, _, _, _, _, failed, first⟩ :=
    culprit_of_mapping composes (fun name among => .inr (front name among)) unknown
  rw [first.mpr front] at failed
  exact ⟨composes, dotted, unknown, failed⟩

/-- The key comes before the unknown name and is blamed in its place. -/
theorem key_blamed_before_unknown :
    let entries := [("a", Value.integer 1)]
    let template := "\x7ba\x7d \x7bb\x7d"
    Composes Token ([placeholder "a", [' ']] ++ placeholder "b" :: []) template.toList ∧
      IsKey entries "a" ∧ ¬ (IsKey entries "b" ∨ IsDotted entries "b") ∧
      resolve template (some (.mapping entries)) =
        .error (.malformedTemplate template (.unknownPlaceholder "a")) := by
  intro entries template
  refine ⟨?_, by decide, by decide, ?_⟩
  · have segments : [placeholder "a", [' ']] ++ placeholder "b" :: [] =
        [Segment.placeholder "a".toList, .literal ' ', .placeholder "b".toList].map
          Segment.token := by decide
    rw [segments, ← read_eq_ok_iff]
    decide +kernel
  · decide +kernel

end Template
end HostTree
