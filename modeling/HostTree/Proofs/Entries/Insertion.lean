/-
This file follows the keys and the contents of entries that are inserted one after the other.
-/

import HostTree.Entries
import Mathlib.Data.List.Induction
import Mathlib.Data.List.Nodup

namespace HostTree.Entries

variable {Content : Type}

/-- The merged entries have the keys of the written ones in the order of their first places, and
each key has its last content. -/
structure Merges (written merged : List (String × Content)) : Prop where
  keys : merged.map Prod.fst = (written.map Prod.fst).eraseDups
  contents : ∀ name, get? name merged = get? name written.reverse

theorem get?_cons (name : String) (entry : String × Content) (rest : List (String × Content)) :
    get? name (entry :: rest) = if entry.1 = name then some entry.2 else get? name rest := by
  split
  · next same => rw [get?, List.find?_cons_of_pos (by simpa using same), Option.map_some]
  · next other => rw [get?, List.find?_cons_of_neg (by simpa using other), get?]

/-- A second content for a key takes the place of the first one. -/
theorem insert_insert (key : String) (first second : Content) (entries : List (String × Content)) :
    insert key second (insert key first entries) = insert key second entries := by
  induction entries with
  | nil => simp [insert]
  | cons entry rest ih => by_cases same : entry.1 = key <;> simp [insert, same, ih]

section

variable {entries others : List (String × Content)} {name key : String} {content : Content}

/-- What is found under a key stands in an entry with this key. -/
theorem mem_of_get? (found : get? name entries = some content) : (name, content) ∈ entries := by
  obtain ⟨entry, among, rfl⟩ := Option.map_eq_some_iff.mp found
  have same : entry.1 = name := by simpa using List.find?_some among
  rw [← same]
  exact List.mem_of_find?_eq_some among

/-- Nothing is found under a key that no entry has. -/
theorem get?_eq_none (absent : name ∉ entries.map Prod.fst) : get? name entries = none := by
  rw [Option.eq_none_iff_forall_ne_some]
  intro content found
  exact absent (List.mem_map_of_mem (mem_of_get? found))

/-- With distinct keys, each entry is the one that is found under its key. -/
theorem get?_eq_some_iff (distinct : Distinct entries) :
    get? name entries = some content ↔ (name, content) ∈ entries := by
  refine ⟨mem_of_get?, ?_⟩
  induction entries with
  | nil => simp
  | cons entry rest ih =>
    obtain ⟨new, distinctRest⟩ := List.nodup_cons.mp distinct
    intro among
    rw [get?_cons]
    rcases List.mem_cons.mp among with rfl | later
    · exact if_pos rfl
    · have other : entry.1 ≠ name := fun same =>
        new (List.mem_map.mpr ⟨_, later, same.symm⟩)
      rw [if_neg other, ih distinctRest later]

theorem Distinct.perm (distinct : Distinct others) (perm : entries.Perm others) :
    Distinct entries :=
  (perm.map Prod.fst).nodup_iff.mpr distinct

/-- The order of entries with distinct keys does not matter for what is found. -/
theorem get?_eq_of_perm (distinct : Distinct others) (perm : entries.Perm others) :
    get? name entries = get? name others := by
  apply Option.ext
  intro content
  rw [get?_eq_some_iff (distinct.perm perm), get?_eq_some_iff distinct, perm.mem_iff]

/-- Distinct keys in one order and one content for each of them make one list of entries. -/
theorem ext_of_distinct (distinct : Distinct entries)
    (keys : others.map Prod.fst = entries.map Prod.fst)
    (contents : ∀ name, get? name others = get? name entries) : others = entries := by
  induction entries generalizing others with
  | nil => exact List.map_eq_nil_iff.mp keys
  | cons entry rest ih =>
    obtain ⟨new, distinctRest⟩ := List.nodup_cons.mp distinct
    match others with
    | other :: otherRest =>
      obtain ⟨sameKey, sameKeys⟩ := List.cons.inj keys
      have sameContent : other.2 = entry.2 := by
        have own := contents entry.1
        rwa [get?_cons, get?_cons, if_pos sameKey, if_pos rfl, Option.some.injEq] at own
      have sameRest : otherRest = rest := by
        apply ih distinctRest sameKeys
        intro name
        by_cases same : entry.1 = name
        · subst same
          rw [get?_eq_none new, get?_eq_none (sameKeys ▸ new)]
        · have later := contents name
          rwa [get?_cons, get?_cons, if_neg same, if_neg (sameKey ▸ same)] at later
      rw [sameRest, Prod.ext sameKey sameContent]

/-- After an insertion the new content is found under its key, and nothing else has changed. -/
theorem get?_insert : get? name (insert key content entries) =
    if key = name then some content else get? name entries := by
  induction entries with
  | nil => rw [insert, get?_cons]
  | cons entry rest ih =>
    rw [insert]
    split
    · next same =>
      rw [get?_cons, get?_cons]
      grind
    · next other =>
      rw [get?_cons, get?_cons, ih]
      grind

/-- An insertion under a key that is there keeps the keys and their order. -/
theorem keys_insert_of_mem (present : key ∈ entries.map Prod.fst) :
    (insert key content entries).map Prod.fst = entries.map Prod.fst := by
  induction entries with
  | nil => cases present
  | cons entry rest ih =>
    rw [insert]
    split
    · rfl
    · next other =>
      have later : key ∈ rest.map Prod.fst :=
        (List.mem_cons.mp present).resolve_left fun same => other same.symm
      rw [List.map_cons, List.map_cons, ih later]

/-- An entry with a new key comes last. -/
theorem insert_of_new (new : key ∉ entries.map Prod.fst) :
    insert key content entries = entries ++ [(key, content)] := by
  induction entries with
  | nil => rfl
  | cons entry rest ih =>
    obtain ⟨other, newRest⟩ := not_or.mp fun among => new (List.mem_cons.mpr among)
    rw [insert, if_neg (Ne.symm other), ih newRest, List.cons_append]

/-- An entry may be added at the end if its key is new. -/
theorem distinct_append_singleton_iff {entry : String × Content} :
    Distinct (entries ++ [entry]) ↔ entry.1 ∉ entries.map Prod.fst ∧ Distinct entries := by
  rw [Distinct, List.map_append, List.map_singleton, ← List.concat_eq_append, List.nodup_concat,
    Distinct]

/-- An insertion keeps the keys distinct. -/
theorem Distinct.insert (distinct : Distinct entries) :
    Distinct (insert key content entries) := by
  by_cases present : key ∈ entries.map Prod.fst
  · rw [Distinct, keys_insert_of_mem present]
    exact distinct
  · rw [insert_of_new present]
    exact distinct_append_singleton_iff.mpr ⟨present, distinct⟩

end

variable (entries : List (String × Content))

theorem ofList_append_singleton (entry : String × Content) :
    ofList (entries ++ [entry]) = insert entry.1 entry.2 (ofList entries) := by
  rw [ofList, List.foldl_append, ← ofList]
  rfl

/-- Entries that are inserted one after the other have distinct keys. -/
theorem distinct_ofList : Distinct (ofList entries) := by
  induction entries using List.reverseRecOn with
  | nil => exact List.nodup_nil
  | append_singleton entries entry ih =>
    rw [ofList_append_singleton]
    exact ih.insert

/-- One more entry adds its key at the end if the key is new, and brings the content of the key. -/
theorem merges_ofList : Merges entries (ofList entries) := by
  induction entries using List.reverseRecOn with
  | nil => exact ⟨rfl, fun _ => rfl⟩
  | append_singleton entries entry ih =>
    rw [ofList_append_singleton]
    constructor
    case keys =>
      rw [List.map_append, List.map_singleton, List.eraseDups_append, ← ih.keys]
      by_cases present : entry.1 ∈ entries.map Prod.fst
      · have old : [entry.1].removeAll (entries.map Prod.fst) = [] := by
          simpa [List.removeAll] using present
        have known : entry.1 ∈ (ofList entries).map Prod.fst := by
          rwa [ih.keys, List.mem_eraseDups]
        rw [keys_insert_of_mem known, old, List.eraseDups_nil, List.append_nil]
      · have new : [entry.1].removeAll (entries.map Prod.fst) = [entry.1] := by
          simpa [List.removeAll] using present
        have unknown : entry.1 ∉ (ofList entries).map Prod.fst := by
          rwa [ih.keys, List.mem_eraseDups]
        rw [insert_of_new unknown, new, List.map_append]
        rfl
    case contents =>
      intro name
      rw [get?_insert, List.reverse_append, List.reverse_singleton, List.singleton_append,
        get?_cons, ih.contents]

variable {entries}

/-- There is one way to merge entries, and inserting them one after the other is it. -/
theorem Merges.eq_ofList {merged : List (String × Content)} (merges : Merges entries merged) :
    merged = ofList entries := by
  have ordered := merges_ofList entries
  apply ext_of_distinct (distinct_ofList entries)
  · rw [merges.keys, ordered.keys]
  · intro name
    rw [merges.contents, ordered.contents]

/-- Entries with distinct keys are inserted at the end one after the other. -/
theorem ofList_eq_self (distinct : Distinct entries) : ofList entries = entries := by
  induction entries using List.reverseRecOn with
  | nil => rfl
  | append_singleton entries entry ih =>
    obtain ⟨new, earlier⟩ := distinct_append_singleton_iff.mp distinct
    rw [ofList_append_singleton, ih earlier, insert_of_new new]

end HostTree.Entries
