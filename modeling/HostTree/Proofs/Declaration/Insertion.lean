/-
This file sets one entry of a node and compares what the node reads as with other contents of it.
-/

import HostTree.Proofs.Declaration.Order
import HostTree.Proofs.Entries.Insertion
import HostTree.Proofs.Outline.Children

namespace HostTree

namespace Entries

variable {key : String} {content : Value}

/-- An insertion keeps the entries of other roles. -/
theorem ofRole_insert_of_ne {role : Role} (other : Role.ofKey key ≠ role)
    (entries : List (String × Value)) :
    ofRole role (insert key content entries) = ofRole role entries := by
  induction entries with
  | nil => simp [insert, ofRole, other]
  | cons entry rest ih =>
    rw [insert]
    split
    case isTrue same =>
      rw [ofRole_cons, ofRole_cons, same, if_neg other, if_neg other]
    case isFalse => rw [ofRole_cons, ofRole_cons, ih]

/-- An insertion is one into the entries of its own role. -/
theorem ofRole_insert_self (key : String) (content : Value) (entries : List (String × Value)) :
    ofRole (Role.ofKey key) (insert key content entries) =
      insert key content (ofRole (Role.ofKey key) entries) := by
  induction entries with
  | nil => simp [insert, ofRole]
  | cons entry rest ih =>
    rw [insert]
    split
    case isTrue same =>
      rw [ofRole_cons, ofRole_cons, if_pos (by rw [same]), if_pos (by rw [same]), insert,
        if_pos same]
    case isFalse different =>
      rw [ofRole_cons, ofRole_cons, ih]
      split
      · rw [insert, if_neg different]
      · rfl

/-- An insertion of another role keeps the children. -/
theorem childItems_insert (other : Role.ofKey key ≠ .children) (entries : List (String × Value)) :
    childItems (insert key content entries) = childItems entries := by
  rw [childItems_eq, childItems_eq, ofRole_insert_of_ne other]

/-- With distinct keys the new entry is the only one of its role, if the role has a single key. -/
theorem ofRole_insert_of_single {role : Role} (own : Role.ofKey key = role)
    (single : role.key? = some key) {entries : List (String × Value)} (distinct : Distinct entries)
    (content : Value) : ofRole role (insert key content entries) = [(key, content)] := by
  have old := ofRole_insert_self key content entries
  rw [own] at old
  rw [old]
  have short : (ofRole role entries).length ≤ 1 := length_ofRole_le_one single distinct
  match found : ofRole role entries, short with
  | [], _ => rfl
  | [entry], _ =>
    have among : entry ∈ ofRole role entries := by simp [found]
    have same : Role.ofKey entry.1 = role := by simpa using (List.mem_filter.mp among).2
    have name : entry.1 = key := Role.eq_of_key? (by rw [same, single])
    rw [insert, if_pos name, name]

end Entries

namespace Declaration

/-- What the entries of a role say is forgotten, and no other entry notices this. -/
structure Forgets (role : Role) (forget : Declaration → Declaration) : Prop where
  pattern : ∀ declaration, (forget declaration).pattern = declaration.pattern
  own : ∀ {key content added}, Role.ofKey key = role → changeOf key content = .ok added →
    ∀ declaration, forget (added declaration) = forget declaration
  other : ∀ {key content added}, Role.ofKey key ≠ role → changeOf key content = .ok added →
    ∀ declaration, added (forget declaration) = forget (added declaration)

/-- A flag or a loop is forgotten when an entry sets it to any content. -/
theorem forgets_of_changeOf {name : String} {content : Value}
    {forget : Declaration → Declaration} (read : changeOf name content = .ok forget)
    (single : (Role.ofKey name).key?.isSome) : Forgets (Role.ofKey name) forget := by
  unfold changeOf at read
  cases role : Role.ofKey name with
  | children => simp [role, Role.key?] at single
  | pattern kind => simp [role, Role.key?] at single
  | setting => simp [role, Role.key?] at single
  | _ =>
    rw [role] at read
    obtain ⟨_, _, rfl⟩ := Except.exists_of_map_eq_ok read
    constructor
    case pattern => exact fun _ => rfl
    case own =>
      intro key content added own readOwn declaration
      unfold changeOf at readOwn
      rw [own] at readOwn
      obtain ⟨_, _, rfl⟩ := Except.exists_of_map_eq_ok readOwn
      rfl
    case other =>
      intro key content added different readOther declaration
      unfold changeOf at readOther
      -- Any other role sets another part of the declaration.
      cases other : Role.ofKey key with
      | setting =>
        rw [other] at readOther
        cases readOther
        rfl
      | _ =>
        rw [other] at readOther
        obtain ⟨_, _, rfl⟩ := Except.exists_of_map_eq_ok readOther
        first | exact absurd other different | rfl

/-- Two drafts are the same when a part of their declarations is forgotten. -/
def Draft.SameUpTo (forget : Declaration → Declaration) (first second : Draft) : Prop :=
  second.revise forget = first.revise forget

namespace Forgets

variable {role : Role} {forget : Declaration → Declaration} {first second : Draft}

theorem accept (forgets : Forgets role forget) (same : first.SameUpTo forget second)
    (key : String) : second.accept key = first.accept key := by
  have equal : second.revise forget = first.revise forget := same
  have childrenKey : second.childrenKey = first.childrenKey := by
    have keys := congrArg Draft.childrenKey equal
    exact keys
  have pattern : second.declaration.pattern = first.declaration.pattern := by
    have patterns := congrArg (fun draft : Draft => draft.declaration.pattern) equal
    simpa only [Draft.revise, forgets.pattern] using patterns
  unfold Draft.accept
  rw [childrenKey, pattern]

/-- Under a key of the role the contents may differ, as long as both can be read. -/
theorem add_own (forgets : Forgets role forget) (same : first.SameUpTo forget second)
    {key : String} (own : Role.ofKey key = role) {content changed : Value}
    {added other : Declaration → Declaration} (read : changeOf key content = .ok added)
    (readOther : changeOf key changed = .ok other) :
    Corresponds (Draft.SameUpTo forget) (first.add key content) (second.add key changed) := by
  rw [Draft.add_eq, Draft.add_eq, forgets.accept same, read, readOther]
  refine (Corresponds.refl (fun _ => rfl) (first.accept key)).bind ?_
  rintro childrenKey _ rfl
  have equal : forget second.declaration = forget first.declaration :=
    congrArg Draft.declaration same
  refine .success (congrArg (Draft.mk · childrenKey) ?_)
  rw [forgets.own own read, forgets.own own readOther, equal]

/-- An entry keeps two readings the same but for what is forgotten. -/
theorem add (forgets : Forgets role forget) (same : first.SameUpTo forget second) (key : String)
    (content : Value) :
    Corresponds (Draft.SameUpTo forget) (first.add key content) (second.add key content) := by
  by_cases own : Role.ofKey key = role
  · cases read : changeOf key content with
    | ok added => exact forgets.add_own same own read read
    | error failure =>
      rw [Draft.add_eq, Draft.add_eq, forgets.accept same, read]
      exact (Corresponds.refl (fun _ => rfl) _).bind fun _ _ _ => .failure failure
  · exact Draft.add_sameAfter same forgets.pattern fun added read => forgets.other own read

/-- Two contents for one key keep two readings the same but for what is forgotten. -/
theorem addAll_insert (forgets : Forgets role forget) {key : String}
    (own : Role.ofKey key = role) {content changed : Value}
    {added other : Declaration → Declaration} (read : changeOf key content = .ok added)
    (readOther : changeOf key changed = .ok other) (same : first.SameUpTo forget second)
    (entries : List (String × Value)) :
    Corresponds (Draft.SameUpTo forget) (first.addAll (Entries.insert key content entries))
      (second.addAll (Entries.insert key changed entries)) := by
  induction entries generalizing first second with
  | nil =>
    rw [Entries.insert, Entries.insert, Draft.addAll_cons, Draft.addAll_cons]
    exact (forgets.add_own same own read readOther).bind fun _ _ => .success
  | cons entry rest ih =>
    rw [Entries.insert, Entries.insert]
    by_cases name : entry.1 = key
    · rw [if_pos name, if_pos name, name, Draft.addAll_cons, Draft.addAll_cons]
      refine (forgets.add_own same own read readOther).bind fun _ _ sameNext => ?_
      exact Draft.addAll_related (fun entry _ _ _ sameNow => forgets.add sameNow entry.1 entry.2)
        sameNext
    · rw [if_neg name, if_neg name, Draft.addAll_cons, Draft.addAll_cons]
      exact (forgets.add same entry.1 entry.2).bind fun _ _ sameNext => ih sameNext

/-- Nodes that differ in the content of an entry read alike up to what is forgotten. -/
theorem ofEntries_insert (forgets : Forgets role forget) {key : String}
    (own : Role.ofKey key = role) {content changed : Value}
    {added other : Declaration → Declaration} (read : changeOf key content = .ok added)
    (readOther : changeOf key changed = .ok other) (entries : List (String × Value)) :
    (ofEntries (Entries.insert key changed entries)).map forget =
      (ofEntries (Entries.insert key content entries)).map forget := by
  have empty : Draft.SameUpTo forget {} {} := rfl
  rw [ofEntries_eq_map, ofEntries_eq_map]
  have drafts := forgets.addAll_insert own read readOther empty entries
  revert drafts
  generalize Draft.addAll {} (Entries.insert key content entries) = draft
  generalize Draft.addAll {} (Entries.insert key changed entries) = otherDraft
  rintro (same | failure)
  · exact congrArg (fun draft : Draft => Except.ok draft.declaration) same
  · rfl

end Forgets
end Declaration
end HostTree
