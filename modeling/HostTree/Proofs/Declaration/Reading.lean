/-
This file follows the reading of a node from one entry to the next.
-/

import HostTree.Declaration

namespace HostTree

/-- Both readings fail with the same failure, or both succeed with related results. -/
inductive Corresponds {Cause First Second : Type} (related : First → Second → Prop) :
    Except Cause First → Except Cause Second → Prop where
  | success {first : First} {second : Second} (relation : related first second) :
    Corresponds related (.ok first) (.ok second)
  | failure (cause : Cause) : Corresponds related (.error cause) (.error cause)

/-- Two changes of one result correspond if they are related at each content. -/
theorem Corresponds.map {Cause First Second Content : Type} {related : First → Second → Prop}
    (result : Except Cause Content) {first : Content → First} {second : Content → Second}
    (each : ∀ content, related (first content) (second content)) :
    Corresponds related (result.map first) (result.map second) := by
  cases result with
  | error failure => exact .failure failure
  | ok content => exact .success (each content)

theorem Except.exists_of_map_eq_ok {Cause First Second : Type} {result : Except Cause First}
    {change : First → Second} {content : Second} (mapped : result.map change = .ok content) :
    ∃ first, result = .ok first ∧ change first = content := by
  cases result with
  | error cause => cases mapped
  | ok first =>
    cases mapped
    exact ⟨first, rfl, rfl⟩

theorem Except.exists_of_bind_eq_ok {Cause First Second : Type} {result : Except Cause First}
    {next : First → Except Cause Second} {content : Second}
    (bound : result.bind next = .ok content) :
    ∃ first, result = .ok first ∧ next first = .ok content := by
  cases result with
  | error cause => cases bound
  | ok first => exact ⟨first, rfl, bound⟩

/-- A changed result is a success exactly when the result is one before. -/
theorem Except.map_eq_ok_iff {Cause First Second : Type} {result : Except Cause First}
    {change : First → Second} {content : Second} :
    result.map change = .ok content ↔ ∃ first, result = .ok first ∧ change first = content := by
  refine ⟨exists_of_map_eq_ok, ?_⟩
  rintro ⟨first, rfl, rfl⟩
  rfl

/-- Two steps succeed exactly when the first one does and the second one does after it. -/
theorem Except.bind_eq_ok_iff {Cause First Second : Type} {result : Except Cause First}
    {next : First → Except Cause Second} {content : Second} :
    result.bind next = .ok content ↔ ∃ first, result = .ok first ∧ next first = .ok content := by
  refine ⟨exists_of_bind_eq_ok, ?_⟩
  rintro ⟨first, rfl, succeeds⟩
  exact succeeds

theorem Corresponds.refl {Cause Content : Type} {related : Content → Content → Prop}
    (same : ∀ content, related content content) (result : Except Cause Content) :
    Corresponds related result result := by
  cases result with
  | error cause => exact .failure cause
  | ok content => exact .success (same content)

/-- Two steps correspond if the first ones do and the second ones do for all related contents. -/
theorem Corresponds.bind {Cause First Second NextFirst NextSecond : Type}
    {related : First → Second → Prop} {relatedNext : NextFirst → NextSecond → Prop}
    {first : Except Cause First} {second : Except Cause Second}
    (corresponds : Corresponds related first second) {nextFirst : First → Except Cause NextFirst}
    {nextSecond : Second → Except Cause NextSecond}
    (next : ∀ content other, related content other →
      Corresponds relatedNext (nextFirst content) (nextSecond other)) :
    Corresponds relatedNext (first.bind nextFirst) (second.bind nextSecond) := by
  cases corresponds with
  | success relation => exact next _ _ relation
  | failure cause => exact .failure cause

/-- The relation of the contents may be weakened. -/
theorem Corresponds.mono {Cause First Second : Type} {related weaker : First → Second → Prop}
    {first : Except Cause First} {second : Except Cause Second}
    (corresponds : Corresponds related first second)
    (each : ∀ content other, related content other → weaker content other) :
    Corresponds weaker first second := by
  cases corresponds with
  | success relation => exact .success (each _ _ relation)
  | failure cause => exact .failure cause

/-- Results that are equal after a change have contents that are equal after it. -/
theorem Corresponds.of_map_eq {Cause Content Image : Type} {first second : Except Cause Content}
    {change : Content → Image} (same : second.map change = first.map change) :
    Corresponds (fun content other => change other = change content) first second := by
  cases first with
  | error cause =>
    cases second with
    | error other =>
      cases same
      exact .failure cause
    | ok other => cases same
  | ok content =>
    cases second with
    | error other => cases same
    | ok other => exact .success (Except.ok.inj same)

/-- Contents that are equal after a change make the results equal after it. -/
theorem Corresponds.map_eq {Cause Content Image : Type} {first second : Except Cause Content}
    {change : Content → Image}
    (corresponds : Corresponds (fun content other => change other = change content) first second) :
    second.map change = first.map change := by
  cases corresponds with
  | success relation => exact congrArg Except.ok relation
  | failure cause => rfl

namespace Role

theorem ofKey_host : ofKey "Host" = .pattern .host := by
  simp [ofKey, Text.sameFolded_eq]

theorem ofKey_match : ofKey "Match" = .pattern .matching := by
  simp [ofKey, Text.sameFolded_eq]

theorem ofKey_hide : ofKey "hide" = .hiding :=
  rfl

theorem ofKey_prefix : ofKey "prefix" = .naming := by
  simp [ofKey]

theorem ofKey_inherit : ofKey "inherit" = .sharing := by
  simp [ofKey]

theorem ofKey_loop : ofKey "with_items" = .looping := by
  simp [ofKey]

theorem ofKey_subhosts : ofKey "subhosts" = .children := by
  simp [ofKey]

/-- These are the lower case forms of the keys that are not options. -/
def reserved : List String :=
  ["hide", "prefix", "inherit", "with_items", "subhosts", "hosts", "host", "match"]

/-- A key is the name of an option unless its lower case form is reserved. -/
theorem ofKey_of_notMem_reserved {key : String} (free : Text.foldCase key ∉ reserved) :
    ofKey key = .setting := by
  have other (name : String) (among : Text.foldCase name ∈ reserved) : key ≠ name := by
    rintro rfl
    exact free among
  have otherFolded (name : String) (among : Text.foldCase name ∈ reserved) :
      ¬Text.sameFolded key name := by
    intro same
    rw [Text.sameFolded, beq_iff_eq] at same
    exact free (same ▸ among)
  have family : ¬(key = "subhosts" ∨ key = "hosts") :=
    not_or_intro (other "subhosts" (by decide +kernel)) (other "hosts" (by decide +kernel))
  rw [ofKey, if_neg (other "hide" (by decide +kernel)), if_neg (other "prefix" (by decide +kernel)),
    if_neg (other "inherit" (by decide +kernel)), if_neg (other "with_items" (by decide +kernel)),
    if_neg family, if_neg (otherFolded "host" (by decide +kernel)),
    if_neg (otherFolded "match" (by decide +kernel))]

/-- For given keys it can be checked at once that they are the names of options. -/
theorem ofKey_of_forall_notMem_reserved {keys : List String}
    (free : ∀ key ∈ keys, Text.foldCase key ∉ reserved) : ∀ key ∈ keys, ofKey key = .setting :=
  fun key among => ofKey_of_notMem_reserved (free key among)

end Role

/-- These are the settings of a node in the order of its entries. -/
def Setting.ofEntries (entries : List (String × Value)) : List Setting :=
  entries.filterMap fun entry =>
    if Role.ofKey entry.1 = .setting then some ⟨entry.1, entry.2⟩ else none

namespace Declaration

namespace Draft

variable {draft : Draft} {key : String} {content : Value}

/-- The flag for hiding counts as unset if it has no content. -/
theorem add_hiding (role : Role.ofKey key = .hiding) :
    draft.add key content = (blame key (readFlag content false)).map fun hidden =>
      { draft with declaration := { draft.declaration with hidden := hidden } } := by
  rw [add, role]
  rfl

/-- The flag for the names of children counts as set if it has no content. -/
theorem add_naming (role : Role.ofKey key = .naming) :
    draft.add key content = (blame key (readFlag content true)).map fun namesChildren =>
      { draft with
        declaration := { draft.declaration with namesChildren := namesChildren } } := by
  rw [add, role]
  rfl

/-- The flag for inheritance counts as unset if it has no content. -/
theorem add_sharing (role : Role.ofKey key = .sharing) :
    draft.add key content = (blame key (readFlag content false)).map fun sharesSettings =>
      { draft with
        declaration := { draft.declaration with sharesSettings := sharesSettings } } := by
  rw [add, role]
  rfl

/-- The failure of a loop does not name the key. -/
theorem add_looping (role : Role.ofKey key = .looping) :
    draft.add key content = ((Loop.ofValue content).mapError Failure.invalidLoop).map fun loop =>
      { draft with declaration := { draft.declaration with loop := loop } } := by
  rw [add, role]
  dsimp only
  cases Loop.ofValue content <;> rfl

/-- The failure of a second list of children names the key of the first one. -/
theorem add_children (role : Role.ofKey key = .children) :
    draft.add key content = match draft.childrenKey with
      | some first => .error (.invalidDirective key (.secondChildren first))
      | none => (blame key (readChildren content)).map fun children =>
        ⟨{ draft.declaration with children := children }, some key⟩ := by
  rw [add, role]
  rfl

/-- A second pattern is refused before its content is read. -/
theorem add_pattern {kind : BlockKind} (role : Role.ofKey key = .pattern kind) :
    draft.add key content =
      if draft.declaration.pattern.isSome then .error (.invalidDirective key .secondPattern)
      else (blame key (readPattern content)).map fun pattern =>
        { draft with
          declaration := { draft.declaration with kind := kind, pattern := some pattern } } := by
  rw [add, role]
  rfl

/-- Any content of an option is taken, and the option comes last. -/
theorem add_setting (role : Role.ofKey key = .setting) :
    draft.add key content = .ok { draft with
      declaration := { draft.declaration with
        settings := draft.declaration.settings ++ [⟨key, content⟩] } } := by
  rw [add, role]

/-- The entries are read one after the other, up to the first failure. -/
def addAll (draft : Draft) (entries : List (String × Value)) : Except Failure Draft :=
  entries.foldlM (fun draft entry => draft.add entry.1 entry.2) draft

@[simp] theorem addAll_nil : draft.addAll [] = .ok draft := rfl

theorem addAll_cons {entry : String × Value} {rest : List (String × Value)} :
    draft.addAll (entry :: rest) =
      (draft.add entry.1 entry.2).bind fun next => next.addAll rest := by
  rw [addAll, List.foldlM_cons]
  rfl

/-- Two lists of entries are read one after the other. -/
theorem addAll_append {before after : List (String × Value)} :
    draft.addAll (before ++ after) =
      (draft.addAll before).bind fun next => next.addAll after :=
  List.foldlM_append

/-- Two readings go the same way when each entry keeps them related. The second one may change an
entry or leave it out. -/
theorem addAll_corresponds {related : Draft → Draft → Prop}
    {change : String × Value → Option (String × Value)} {entries : List (String × Value)}
    (step : ∀ entry ∈ entries, ∀ first second, related first second →
      Corresponds related (first.add entry.1 entry.2)
        (match change entry with
        | none => .ok second
        | some changed => second.add changed.1 changed.2))
    {first second : Draft} (start : related first second) :
    Corresponds related (first.addAll entries) (second.addAll (entries.filterMap change)) := by
  induction entries generalizing first second with
  | nil => exact .success start
  | cons entry rest ih =>
    have now := step entry List.mem_cons_self first second start
    have later (next other : Draft) (relation : related next other) :=
      ih (fun entry among => step entry (List.mem_cons_of_mem _ among)) relation
    rw [addAll_cons, List.filterMap_cons]
    revert now
    cases change entry with
    | none =>
      generalize first.add entry.1 entry.2 = result
      rintro (relation | failure)
      exact later _ _ relation
    | some changed =>
      dsimp only
      rw [addAll_cons]
      generalize first.add entry.1 entry.2 = result
      generalize second.add changed.1 changed.2 = other
      rintro (relation | failure)
      · exact later _ _ relation
      · exact .failure failure

/-- Two readings of the same entries go the same way when each entry keeps them related. -/
theorem addAll_related {related : Draft → Draft → Prop} {entries : List (String × Value)}
    (step : ∀ entry ∈ entries, ∀ first second, related first second →
      Corresponds related (first.add entry.1 entry.2) (second.add entry.1 entry.2))
    {first second : Draft} (start : related first second) :
    Corresponds related (first.addAll entries) (second.addAll entries) := by
  have follows : Corresponds related (first.addAll entries)
      (second.addAll (entries.filterMap some)) := addAll_corresponds step start
  rwa [List.filterMap_some] at follows

/-- A successful reading has read each of its entries. -/
theorem add_of_addAll {entries : List (String × Value)} {last : Draft}
    (read : draft.addAll entries = .ok last) {entry : String × Value} (among : entry ∈ entries) :
    ∃ before after : Draft, before.add entry.1 entry.2 = .ok after := by
  induction entries generalizing draft with
  | nil => cases among
  | cons first rest ih =>
    rw [addAll_cons] at read
    cases step : draft.add first.1 first.2 with
    | error failure =>
      rw [step] at read
      cases read
    | ok next =>
      rw [step] at read
      rcases List.mem_cons.mp among with rfl | later
      · exact ⟨draft, next, step⟩
      · exact ih read later

end Draft

/-- A node is what the reading of all its entries has collected at the end. -/
theorem ofEntries_eq_map (entries : List (String × Value)) :
    ofEntries entries = (Draft.addAll {} entries).map Draft.declaration := by
  rw [ofEntries]
  change (Draft.addAll {} entries).bind _ = _
  cases Draft.addAll {} entries <;> rfl

end Declaration
end HostTree
