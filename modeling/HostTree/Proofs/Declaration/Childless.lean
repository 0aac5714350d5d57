/-
This file shows that a node reads as before when only its children change.
-/

import HostTree.Proofs.Declaration.Change
import HostTree.Proofs.Outline.Children

namespace HostTree

namespace Declaration

/-- The children are forgotten. -/
def childless : Declaration → Declaration :=
  adjust id id fun _ => []

/-- Readings that are equal after a change, but for the children, differ in the children and by the
change. -/
theorem corresponds_of_childless {first second : Except Failure Declaration}
    {shares : Bool → Bool} {settings : List Setting → List Setting}
    (same : second.map childless = (first.map (adjust shares settings id)).map childless) :
    Corresponds
      (fun declaration other =>
        ∃ children, other = declaration.adjust shares settings fun _ => children)
      first second := by
  cases first with
  | error failure =>
    cases second with
    | error other =>
      cases same
      exact .failure failure
    | ok other => cases same
  | ok declaration =>
    cases second with
    | error other => cases same
    | ok other =>
      obtain ⟨_, _, _, _, _, _, _, _⟩ := declaration
      obtain ⟨_, _, _, _, _, _, _, children⟩ := other
      cases same
      exact .success ⟨children, rfl⟩

/-- Readings that are equal but for the children differ in the children only. -/
theorem corresponds_of_same_childless {first second : Except Failure Declaration}
    (same : second.map childless = first.map childless) :
    Corresponds
      (fun declaration other => ∃ children, other = declaration.adjust id id fun _ => children)
      first second := by
  apply corresponds_of_childless
  rw [same]
  cases first <;> rfl

/-- Two drafts are the same when their children are forgotten. -/
def Draft.SameButChildren (first second : Draft) : Prop :=
  second.revise childless = first.revise childless

/-- Reading an entry keeps two readings alike but for the children. -/
theorem Draft.add_childless {first second : Draft} {key : String} {content changed : Value}
    (same : first.SameButChildren second)
    (readable : Role.ofKey key = .children →
      Corresponds (fun _ _ => True) (readChildren content) (readChildren changed))
    (unchanged : Role.ofKey key ≠ .children → changed = content) :
    Corresponds SameButChildren (first.add key content) (second.add key changed) := by
  by_cases role : Role.ofKey key = .children
  · have sameKey : second.childrenKey = first.childrenKey := by
      change (second.revise childless).childrenKey = (first.revise childless).childrenKey
      rw [same]
    rw [add_children role, add_children role, sameKey]
    cases first.childrenKey with
    | some taken => exact .failure _
    | none =>
      have read := readable role
      revert read
      generalize readChildren content = result
      generalize readChildren changed = other
      rintro (_ | flaw)
      · have part := congrArg (fun draft : Draft => draft.declaration) same
        exact .success (congrArg (Draft.mk · (some key)) part)
      · exact .failure _
  · rw [unchanged role]
    exact add_sameAfter same (fun _ => rfl) fun added read =>
      changeOf_unnoticed read (fun _ => rfl) (fun _ => rfl) fun children => absurd children role

/-- Reading the same entries keeps two readings alike but for the children. -/
theorem Draft.addAll_childless {first second : Draft}
    (same : first.SameButChildren second) (entries : List (String × Value)) :
    Corresponds SameButChildren (first.addAll entries) (second.addAll entries) := by
  apply addAll_related
  case start => exact same
  case step =>
    intro entry _ draft other sameNow
    exact add_childless sameNow (fun _ => .refl (fun _ => trivial) _) (fun _ => rfl)

/-- Changed children change the reading in the children only. -/
theorem Draft.addAll_mapChildItems {change : List Value → List Value}
    (readable : ∀ items, Corresponds (fun _ _ => True) (readChildren (.sequence items))
      (readChildren (.sequence (change items)))) {first second : Draft}
    (same : first.SameButChildren second) (entries : List (String × Value)) :
    Corresponds SameButChildren (first.addAll entries)
      (second.addAll (Entries.mapChildItems change entries)) := by
  induction entries generalizing first second with
  | nil => exact .success same
  | cons entry rest ih =>
    rw [Entries.mapChildItems]
    split
    case isTrue role =>
      have now : Corresponds SameButChildren (first.add entry.1 entry.2)
          (second.add entry.1 (entry.2.mapItems change)) := by
        apply add_childless same
        case readable =>
          intro _
          cases entry.2 with
          | sequence items => exact readable items
          | _ => exact .refl (fun _ => trivial) _
        case unchanged => exact fun other => absurd role other
      rw [addAll_cons, addAll_cons]
      exact now.bind fun _ _ sameNext => addAll_childless sameNext rest
    case isFalse role =>
      have now := add_childless same (fun children => absurd children role)
        (fun _ => (rfl : entry.2 = entry.2))
      rw [addAll_cons, addAll_cons]
      exact now.bind fun _ _ sameNext => ih sameNext

/-- Two drafts have the same declaration when the children are forgotten. They may have different
keys for children. -/
def Draft.SameButFamily (first second : Draft) : Prop :=
  second.declaration.childless = first.declaration.childless

theorem Draft.SameButChildren.family {first second : Draft} (same : first.SameButChildren second) :
    first.SameButFamily second :=
  congrArg Draft.declaration same

/-- Entries without children do not notice which children a node has. -/
theorem Draft.add_sameButFamily {first second : Draft} {key : String}
    (role : Role.ofKey key ≠ .children) (content : Value) (same : first.SameButFamily second) :
    Corresponds SameButFamily (first.add key content) (second.add key content) := by
  have equal : second.declaration.childless = first.declaration.childless := same
  have pattern : second.declaration.pattern = first.declaration.pattern := by
    change second.declaration.childless.pattern = first.declaration.childless.pattern
    rw [equal]
  have accepted : Corresponds (fun _ _ => True) (first.accept key) (second.accept key) := by
    unfold accept
    rw [pattern]
    split
    · exact absurd ‹Role.ofKey key = .children› role
    · split
      · exact .failure _
      · exact .success trivial
    · exact .success trivial
  rw [add_eq, add_eq]
  apply accepted.bind
  intro _ _ _
  cases read : changeOf key content with
  | error failure => exact .failure failure
  | ok added =>
    have unnoticed (declaration : Declaration) :
        added declaration.childless = (added declaration).childless :=
      changeOf_unnoticed read (fun _ => rfl) (fun _ => rfl) (fun children => absurd children role)
        declaration
    refine .success ?_
    rw [SameButFamily, ← unnoticed, ← unnoticed, equal]

/-- Entries that are not children keep two readings alike but for the children. -/
theorem Draft.addAll_sameButFamily {entries : List (String × Value)}
    (roles : ∀ entry ∈ entries, Role.ofKey entry.1 ≠ .children) {first second : Draft}
    (same : first.SameButFamily second) :
    Corresponds SameButFamily (first.addAll entries) (second.addAll entries) := by
  apply addAll_related
  case start => exact same
  case step =>
    intro entry among draft other sameNow
    exact add_sameButFamily (roles entry among) entry.2 sameNow

/-- Entries that are not children leave the key of the children as it is. -/
theorem Draft.childrenKey_of_addAll {entries : List (String × Value)}
    (roles : ∀ entry ∈ entries, Role.ofKey entry.1 ≠ .children) {draft last : Draft}
    (read : draft.addAll entries = .ok last) : last.childrenKey = draft.childrenKey := by
  induction entries generalizing draft with
  | nil =>
    cases read
    rfl
  | cons entry rest ih =>
    obtain ⟨role, restRoles⟩ := List.forall_mem_cons.mp roles
    rw [addAll_cons, add_eq] at read
    obtain ⟨next, added, readRest⟩ := Except.exists_of_bind_eq_ok read
    obtain ⟨childrenKey, accepted, changed⟩ := Except.exists_of_bind_eq_ok added
    obtain ⟨change, _, rfl⟩ := Except.exists_of_map_eq_ok changed
    have kept : childrenKey = draft.childrenKey := by
      unfold accept at accepted
      split at accepted
      · exact absurd ‹Role.ofKey entry.1 = .children› role
      · split at accepted
        · cases accepted
        · cases accepted
          rfl
      · cases accepted
        rfl
    exact (ih restRoles readRest).trans kept

/-- Nodes read alike, but for the children, when their drafts are the same in this way. -/
theorem childless_of_family {entries others : List (String × Value)}
    (same : Corresponds Draft.SameButFamily (Draft.addAll {} entries) (Draft.addAll {} others)) :
    (ofEntries others).map childless = (ofEntries entries).map childless := by
  have equal := same.map_eq
  rw [ofEntries_eq_map, ofEntries_eq_map]
  revert equal
  cases Draft.addAll {} entries <;>
    cases Draft.addAll {} others <;>
    simp only [Except.map, reduceCtorEq, imp_self, Except.error.injEq, Except.ok.injEq]

theorem childless_of_addAll {entries others : List (String × Value)}
    (same : Corresponds Draft.SameButChildren (Draft.addAll {} entries) (Draft.addAll {} others)) :
    (ofEntries others).map childless = (ofEntries entries).map childless :=
  childless_of_family (same.mono fun _ _ => Draft.SameButChildren.family)

theorem corresponds_of_family {entries others : List (String × Value)}
    (same : Corresponds Draft.SameButFamily (Draft.addAll {} entries) (Draft.addAll {} others)) :
    Corresponds
      (fun declaration other => ∃ children, other = declaration.adjust id id fun _ => children)
      (ofEntries entries) (ofEntries others) :=
  corresponds_of_same_childless (childless_of_family same)

/-- The only entry for children may be left out when its content can be read. -/
theorem ofEntries_without_children {key : String} (role : Role.ofKey key = .children)
    {content : Value} {found : List Child} (readable : readChildren content = .ok found)
    {before after : List (String × Value)}
    (beforeRoles : ∀ entry ∈ before, Role.ofKey entry.1 ≠ .children)
    (afterRoles : ∀ entry ∈ after, Role.ofKey entry.1 ≠ .children) :
    Corresponds
      (fun declaration other => ∃ children, other = declaration.adjust id id fun _ => children)
      (ofEntries (before ++ (key, content) :: after)) (ofEntries (before ++ after)) := by
  apply corresponds_of_family
  rw [Draft.addAll_append, Draft.addAll_append]
  cases read : Draft.addAll {} before with
  | error failure => exact .failure failure
  | ok draft =>
    have first : draft.childrenKey = none := Draft.childrenKey_of_addAll beforeRoles read
    have added : draft.add key content =
        .ok ⟨{ draft.declaration with children := found }, some key⟩ := by
      rw [Draft.add_children role, first, readable]
      rfl
    change Corresponds _ (draft.addAll ((key, content) :: after)) (draft.addAll after)
    rw [Draft.addAll_cons, added]
    exact Draft.addAll_sameButFamily afterRoles rfl

/-- The content under one key for children may change when both contents can be read alike. -/
theorem ofEntries_replaced {key : String} (role : Role.ofKey key = .children)
    {content changed : Value} (readable : Corresponds (fun _ _ => True) (readChildren content)
      (readChildren changed)) (before after : List (String × Value)) :
    Corresponds
      (fun declaration other => ∃ children, other = declaration.adjust id id fun _ => children)
      (ofEntries (before ++ (key, content) :: after))
      (ofEntries (before ++ (key, changed) :: after)) := by
  apply corresponds_of_family
  rw [Draft.addAll_append, Draft.addAll_append]
  have empty : Draft.SameButChildren {} {} := rfl
  apply (Draft.addAll_childless empty before).bind
  intro first second same
  rw [Draft.addAll_cons, Draft.addAll_cons]
  apply (Draft.add_childless same (fun _ => readable) fun other => absurd role other).bind
  intro next other sameNext
  exact (Draft.addAll_childless sameNext after).mono fun _ _ => Draft.SameButChildren.family

/-- Nodes whose children can be read alike read alike, but for the children. -/
theorem ofEntries_mapChildItems {change : List Value → List Value}
    (readable : ∀ items, Corresponds (fun _ _ => True) (readChildren (.sequence items))
      (readChildren (.sequence (change items)))) (entries : List (String × Value)) :
    (ofEntries (Entries.mapChildItems change entries)).map childless =
      (ofEntries entries).map childless :=
  childless_of_addAll
    (Draft.addAll_mapChildItems readable (rfl : Draft.revise childless {} = _) entries)

end Declaration
end HostTree
