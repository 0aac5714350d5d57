/-
This file puts what the names of a template mean in their places.
-/

import HostTree.Proofs.Template.Composition
import Mathlib.Data.List.Forall2

namespace HostTree

namespace Template

/-- This is the token for a name. -/
def placeholder (name : String) : List Char :=
  '{' :: name.toList ++ ['}']

/-- The names in all placeholders are of one kind. -/
def AllNamed (kind : String → Prop) (tokens : List (List Char)) : Prop :=
  ∀ name, placeholder name ∈ tokens → kind name

/-- A literal token becomes its character, and a placeholder becomes what its name means. -/
inductive Becomes (meaning : String → String → Prop) : List Char → List Char → Prop where
  | literal (character : Char) : Becomes meaning (escape [character]) [character]
  | placeholder {name text : String} (meant : meaning name text) :
    Becomes meaning (placeholder name) text.toList

/-- The text is put together from what each of the tokens becomes. -/
def Substituted (meaning : String → String → Prop) (tokens : List (List Char)) (text : String) :
    Prop :=
  ∃ parts, List.Forall₂ (Becomes meaning) tokens parts ∧ parts.flatten = text.toList

theorem placeholder_ofList (name : List Char) :
    placeholder (String.ofList name) = (Segment.placeholder name).token := by
  rw [placeholder, String.toList_ofList, token_placeholder]

theorem placeholder_injective {first second : String}
    (same : placeholder first = placeholder second) : first = second := by
  simpa [placeholder, String.toList_inj] using same

/-- A placeholder has two different braces. -/
theorem placeholder_ne_literal (name : String) (character : Char) :
    placeholder name ≠ (Segment.literal character).token := by
  intro same
  rw [placeholder, List.cons_append, token_literal, escape, List.flatMap_singleton] at same
  split at same
  · next brace =>
    simp only [List.cons.injEq] at same
    obtain ⟨rfl, closing⟩ := same
    rw [List.append_eq_singleton_iff] at closing
    simp at closing
  · simp at same

theorem escape_singleton_injective {first second : Char} (same : escape [first] = escape [second]) :
    first = second := by
  simp only [escape, List.flatMap_singleton] at same
  split_ifs at same <;> simp_all

theorem mem_tokens_iff {segments : List Segment} {name : String} :
    placeholder name ∈ segments.map Segment.token ↔ .placeholder name.toList ∈ segments := by
  have own : placeholder name = (Segment.placeholder name.toList).token := by
    rw [← placeholder_ofList, String.ofList_toList]
  rw [List.mem_map]
  constructor
  · rintro ⟨segment, among, same⟩
    cases segment with
    | literal character => exact absurd same.symm (placeholder_ne_literal name character)
    | placeholder other =>
      rw [← placeholder_ofList] at same
      rwa [← placeholder_injective same, String.toList_ofList]
  · intro among
    exact ⟨_, among, own.symm⟩

theorem allNamed_cons {kind : String → Prop} {token : List Char} {tokens : List (List Char)} :
    AllNamed kind (token :: tokens) ↔
      (∀ name, placeholder name = token → kind name) ∧ AllNamed kind tokens := by
  simp only [AllNamed, List.mem_cons, or_imp, forall_and]

/-- Unless all names are of the kind, there is a first one that is not. -/
theorem exists_first_of_not_allNamed {kind : String → Prop} {tokens : List (List Char)}
    (other : ¬ AllNamed kind tokens) :
    ∃ name front rest, tokens = front ++ placeholder name :: rest ∧ AllNamed kind front ∧
      ¬ kind name := by
  induction tokens with
  | nil => exact absurd (fun _ => nofun) other
  | cons token tokens ih =>
    by_cases here : ∀ name, placeholder name = token → kind name
    · have later : ¬ AllNamed kind tokens := fun all => other (allNamed_cons.mpr ⟨here, all⟩)
      obtain ⟨name, front, rest, rfl, before, unlike⟩ := ih later
      exact ⟨name, token :: front, rest, rfl, allNamed_cons.mpr ⟨here, before⟩, unlike⟩
    · push Not at here
      obtain ⟨name, rfl, unlike⟩ := here
      exact ⟨name, [], tokens, rfl, fun _ => nofun, unlike⟩

/-- There is only one place of the first name that is not of the kind. -/
theorem AllNamed.first_unique {kind : String → Prop} {front rest before behind : List (List Char)}
    {name other : String}
    (same : front ++ placeholder name :: rest = before ++ placeholder other :: behind)
    (first : AllNamed kind front) (unlike : ¬ kind name) (second : AllNamed kind before)
    (unlikeOther : ¬ kind other) : front = before ∧ name = other := by
  -- The longer of the two lists would hold the other name.
  rcases List.append_eq_append_iff.mp same with ⟨between, rfl, tail⟩ | ⟨between, rfl, tail⟩
  · cases between with
    | nil => exact ⟨(List.append_nil _).symm, placeholder_injective (List.cons.inj tail).1⟩
    | cons token tokens =>
      rw [List.cons_append, List.cons.injEq] at tail
      exact absurd (second name (by simp [tail.1])) unlike
  · cases between with
    | nil => exact ⟨List.append_nil _, (placeholder_injective (List.cons.inj tail).1).symm⟩
    | cons token tokens =>
      rw [List.cons_append, List.cons.injEq] at tail
      exact absurd (first other (by simp [tail.1])) unlikeOther

/-- The first name that is not of a narrow kind is the first one that is not of a wide kind if and
only if all names before the latter are of the narrow kind. -/
theorem AllNamed.first_eq_iff {narrow wide : String → Prop}
    {front rest before behind : List (List Char)} {name other : String}
    (wider : ∀ name, narrow name → wide name)
    (same : front ++ placeholder name :: rest = before ++ placeholder other :: behind)
    (first : AllNamed wide front) (unlike : ¬ wide name) (second : AllNamed narrow before)
    (unlikeOther : ¬ narrow other) : other = name ↔ AllNamed narrow front := by
  constructor
  · rintro rfl
    have apart : AllNamed (· ≠ other) before := fun name earlier equal =>
      unlikeOther (equal ▸ second name earlier)
    have apartFront : AllNamed (· ≠ other) front := fun name earlier equal =>
      unlike (equal ▸ first name earlier)
    rw [(AllNamed.first_unique same apartFront (by simp) apart (by simp)).1]
    exact second
  · intro all
    have unlikeName : ¬ narrow name := fun like => unlike (wider name like)
    exact (AllNamed.first_unique same all unlikeName second unlikeOther).2.symm

section Meaning

variable {meaning : String → String → Prop}

theorem becomes_literal_iff {character : Char} {part : List Char} :
    Becomes meaning (Segment.literal character).token part ↔ part = [character] := by
  constructor
  · intro becomes
    generalize written : (Segment.literal character).token = token at becomes
    cases becomes with
    | literal other =>
      rw [token_literal] at written
      rw [escape_singleton_injective written]
    | placeholder meant => exact absurd written.symm (placeholder_ne_literal _ character)
  · rintro rfl
    rw [token_literal]
    exact .literal character

theorem becomes_placeholder_iff {name part : List Char} :
    Becomes meaning (Segment.placeholder name).token part ↔
      ∃ text, meaning (String.ofList name) text ∧ part = text.toList := by
  rw [← placeholder_ofList]
  constructor
  · intro becomes
    generalize written : placeholder (String.ofList name) = token at becomes
    cases becomes with
    | literal other =>
      rw [← token_literal] at written
      exact absurd written (placeholder_ne_literal _ other)
    | placeholder meant =>
      rw [placeholder_injective written]
      exact ⟨_, meant, rfl⟩
  · rintro ⟨text, meant, rfl⟩
    exact .placeholder meant

variable {answer : String → Option String}
  (answers : ∀ name text, answer name = some text ↔ meaning name text)

include answers

theorem fill_singleton_eq_ok_iff {segment : Segment} {part : List Char} :
    fill answer [segment] = .ok part ↔ Becomes meaning segment.token part := by
  cases segment with
  | literal character =>
    rw [becomes_literal_iff]
    simp [fill, Except.map, eq_comm]
  | placeholder name =>
    rw [becomes_placeholder_iff]
    simp only [← answers]
    cases found : answer (String.ofList name) <;> simp [fill, found, Except.map, eq_comm]

theorem fill_eq_ok_iff {segments : List Segment} {text : List Char} :
    fill answer segments = .ok text ↔
      ∃ parts, List.Forall₂ (Becomes meaning) (segments.map Segment.token) parts ∧
        parts.flatten = text := by
  induction segments generalizing text with
  | nil => simp [fill, eq_comm]
  | cons segment rest ih =>
    rw [← List.singleton_append, fill_append_eq_ok_iff, List.map_append, List.map_singleton,
      List.singleton_append]
    simp only [fill_singleton_eq_ok_iff answers, ih, List.forall₂_cons_left_iff]
    constructor
    · rintro ⟨front, back, becomes, ⟨parts, others, rfl⟩, rfl⟩
      exact ⟨front :: parts, ⟨front, parts, becomes, others, rfl⟩, List.flatten_cons⟩
    · rintro ⟨_, ⟨front, parts, becomes, others, rfl⟩, rfl⟩
      exact ⟨front, parts.flatten, becomes, ⟨parts, others, rfl⟩, List.flatten_cons⟩

/-- A template is filled as soon as all of its names have a meaning. -/
theorem exists_fill_iff {segments : List Segment} :
    (∃ text, fill answer segments = .ok text) ↔
      AllNamed (fun name => ∃ text, meaning name text) (segments.map Segment.token) := by
  simp only [AllNamed, mem_tokens_iff]
  induction segments with
  | nil => simp [fill]
  | cons segment rest ih =>
    rw [← List.singleton_append]
    simp only [fill_append_eq_ok_iff, fill_singleton_eq_ok_iff answers]
    constructor
    · rintro ⟨_, front, back, becomes, others, rfl⟩ name among
      rcases List.mem_cons.mp among with now | later
      · rw [← now, becomes_placeholder_iff, String.ofList_toList] at becomes
        obtain ⟨text, meant, _⟩ := becomes
        exact ⟨text, meant⟩
      · exact ih.mp ⟨back, others⟩ name later
    · intro known
      obtain ⟨back, others⟩ := ih.mpr fun name later => known name (List.mem_cons_of_mem _ later)
      have first : ∃ front, Becomes meaning segment.token front := by
        cases segment with
        | literal character => exact ⟨_, becomes_literal_iff.mpr rfl⟩
        | placeholder name =>
          obtain ⟨text, meant⟩ := known (String.ofList name) (by simp)
          exact ⟨_, becomes_placeholder_iff.mpr ⟨text, meant, rfl⟩⟩
      obtain ⟨front, becomes⟩ := first
      exact ⟨front ++ back, front, back, becomes, others, rfl⟩

/-- The first name without a meaning is the failure. -/
theorem fill_eq_error {segments : List Segment} {front rest : List (List Char)} {name : String}
    (split : segments.map Segment.token = front ++ placeholder name :: rest)
    (known : AllNamed (fun other => ∃ text, meaning other text) front)
    (unknown : ¬ ∃ text, meaning name text) :
    fill answer segments = .error (.unknownPlaceholder name) := by
  obtain ⟨before, others, rfl, rfl, tail⟩ := List.map_eq_append_iff.mp split
  obtain ⟨segment, behind, rfl, own, _⟩ := List.map_eq_cons_iff.mp tail
  obtain ⟨text, filled⟩ := (exists_fill_iff answers).mpr known
  have missing : answer name = none := by
    rw [Option.eq_none_iff_forall_ne_some]
    intro text found
    exact unknown ⟨text, (answers name text).mp found⟩
  rw [fill_append, filled]
  cases segment with
  | literal character => exact absurd own.symm (placeholder_ne_literal name character)
  | placeholder letters =>
    rw [← placeholder_ofList] at own
    rw [fill, placeholder_injective own, missing]
    rfl

end Meaning

end Template
end HostTree
