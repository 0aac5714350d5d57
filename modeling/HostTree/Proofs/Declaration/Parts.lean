/-
This file splits the reading of a node into readings that do not depend on each other.
-/

import HostTree.Proofs.Declaration.Reading
import Mathlib.Tactic.MkIffOfInductiveProp

namespace HostTree

namespace Entries

/-- These are the entries of one role in their order. -/
def ofRole (role : Role) (entries : List (String × Value)) : List (String × Value) :=
  entries.filter fun entry => Role.ofKey entry.1 = role

/-- These are the patterns with their kinds. -/
def patterns (entries : List (String × Value)) : List (BlockKind × Value) :=
  entries.filterMap fun entry =>
    match Role.ofKey entry.1 with
    | .pattern kind => some (kind, entry.2)
    | _ => none

variable {entry : String × Value} {rest : List (String × Value)}

theorem ofRole_cons {role : Role} :
    ofRole role (entry :: rest) =
      if Role.ofKey entry.1 = role then entry :: ofRole role rest else ofRole role rest := by
  rw [ofRole, List.filter_cons]
  by_cases equal : Role.ofKey entry.1 = role <;> simp [equal, ofRole]

theorem patterns_cons :
    patterns (entry :: rest) =
      match Role.ofKey entry.1 with
      | .pattern kind => (kind, entry.2) :: patterns rest
      | _ => patterns rest := by
  rw [patterns, List.filterMap_cons]
  cases Role.ofKey entry.1 <;> rfl

end Entries

theorem Setting.ofEntries_cons {entry : String × Value} {rest : List (String × Value)} :
    ofEntries (entry :: rest) =
      if Role.ofKey entry.1 = .setting then ⟨entry.1, entry.2⟩ :: ofEntries rest
      else ofEntries rest := by
  rw [ofEntries, List.filterMap_cons]
  by_cases role : Role.ofKey entry.1 = .setting <;> simp [role, ofEntries]

namespace Declaration

/-- Each entry must be read, and the last one counts. -/
def readLast {Flaw Content : Type} (read : Value → Except Flaw Content) (usual : Content)
    (entries : List (String × Value)) : Except Flaw Content :=
  entries.foldlM (fun _ entry => read entry.2) usual

theorem readLast_cons {Flaw Content : Type} {read : Value → Except Flaw Content} {usual : Content}
    {entry : String × Value} {rest : List (String × Value)} :
    readLast read usual (entry :: rest) =
      (read entry.2).bind fun content => readLast read content rest := rfl

theorem readLast_readable {Flaw Content : Type} {read : Value → Except Flaw Content}
    {usual last : Content} {entries : List (String × Value)}
    (success : readLast read usual entries = .ok last) {entry : String × Value}
    (among : entry ∈ entries) : ∃ content, read entry.2 = .ok content := by
  induction entries generalizing usual with
  | nil => cases among
  | cons first rest ih =>
    rw [readLast_cons] at success
    cases found : read first.2 with
    | error flaw =>
      rw [found] at success
      cases success
    | ok content =>
      rw [found] at success
      rcases List.mem_cons.mp among with rfl | later
      · exact ⟨content, found⟩
      · exact ih success later

/-- A second pattern is refused. -/
def readNaming (held : BlockKind × Option String) (patterns : List (BlockKind × Value)) :
    Except DirectiveFlaw (BlockKind × Option String) :=
  patterns.foldlM (fun held pattern =>
    if held.2.isSome then .error .secondPattern
    else (readPattern pattern.2).map fun text => (pattern.1, some text)) held

/-- A second list of children is refused. -/
def readFamily (held : List Child × Option String) (entries : List (String × Value)) :
    Except DirectiveFlaw (List Child × Option String) :=
  entries.foldlM (fun held entry =>
    match held.2 with
    | some first => .error (.secondChildren first)
    | none => (readChildren entry.2).map fun children => (children, some entry.1)) held

/-- Each part of the last draft comes from the entries of its role only. -/
@[mk_iff]
structure Draft.Reads (draft : Draft) (entries : List (String × Value)) (last : Draft) : Prop where
  hidden : readLast (readFlag · false) draft.declaration.hidden (Entries.ofRole .hiding entries) =
    .ok last.declaration.hidden
  namesChildren : readLast (readFlag · true) draft.declaration.namesChildren
    (Entries.ofRole .naming entries) = .ok last.declaration.namesChildren
  sharesSettings : readLast (readFlag · false) draft.declaration.sharesSettings
    (Entries.ofRole .sharing entries) = .ok last.declaration.sharesSettings
  loop : readLast Loop.ofValue draft.declaration.loop (Entries.ofRole .looping entries) =
    .ok last.declaration.loop
  pattern : readNaming (draft.declaration.kind, draft.declaration.pattern)
    (Entries.patterns entries) = .ok (last.declaration.kind, last.declaration.pattern)
  settings : draft.declaration.settings ++ Setting.ofEntries entries = last.declaration.settings
  children : readFamily (draft.declaration.children, draft.childrenKey)
    (Entries.ofRole .children entries) = .ok (last.declaration.children, last.childrenKey)

namespace Draft

theorem reads_nil {draft last : Draft} : draft.Reads [] last ↔ draft = last := by
  obtain ⟨⟨_, _, _, _, _, _, _, _⟩, _⟩ := draft
  obtain ⟨⟨_, _, _, _, _, _, _, _⟩, _⟩ := last
  simp [reads_iff, Entries.ofRole, Entries.patterns, Setting.ofEntries, readLast, readNaming,
    readFamily, pure, Except.pure]
  grind

/-- Only the part of its role notices an entry. -/
theorem reads_cons {draft last : Draft} {entry : String × Value} {rest : List (String × Value)} :
    draft.Reads (entry :: rest) last ↔
      ∃ next, draft.add entry.1 entry.2 = .ok next ∧ next.Reads rest last := by
  obtain ⟨key, content⟩ := entry
  simp only [reads_iff, Entries.ofRole_cons, Entries.patterns_cons, Setting.ofEntries_cons]
  cases role : Role.ofKey key with
  | «hiding» =>
    rw [add_hiding role]
    simp only [if_true, reduceCtorEq, if_false, readLast_cons]
    cases readFlag content false <;> simp [blame, Except.map, Except.bind]
  | naming =>
    rw [add_naming role]
    simp only [if_true, reduceCtorEq, if_false, readLast_cons]
    cases readFlag content true <;> simp [blame, Except.map, Except.bind]
  | sharing =>
    rw [add_sharing role]
    simp only [if_true, reduceCtorEq, if_false, readLast_cons]
    cases readFlag content false <;> simp [blame, Except.map, Except.bind]
  | looping =>
    rw [add_looping role]
    simp only [if_true, reduceCtorEq, if_false, readLast_cons]
    have failed (flaw : LoopFlaw) : (Except.error flaw : Except LoopFlaw (Option Loop)).mapError
        Failure.invalidLoop = .error (.invalidLoop flaw) := rfl
    have passed (loop : Option Loop) :
        (Except.ok loop : Except LoopFlaw (Option Loop)).mapError Failure.invalidLoop = .ok loop :=
      rfl
    cases Loop.ofValue content <;> simp [failed, passed, Except.map, Except.bind]
  | children =>
    rw [add_children role]
    simp only [if_true, reduceCtorEq, if_false, readFamily, List.foldlM_cons]
    cases draft.childrenKey with
    | some first => simp [bind, Except.bind]
    | none => cases readChildren content <;> simp [blame, Except.map, bind, Except.bind]
  | pattern kind =>
    rw [add_pattern role]
    simp only [reduceCtorEq, if_false, readNaming, List.foldlM_cons]
    cases draft.declaration.pattern with
    | some first => simp [bind, Except.bind]
    | none => cases readPattern content <;> simp [blame, Except.map, bind, Except.bind]
  | setting =>
    rw [add_setting role]
    simp

/-- A node is read exactly when its parts are. -/
theorem addAll_eq_ok_iff {draft last : Draft} {entries : List (String × Value)} :
    draft.addAll entries = .ok last ↔ draft.Reads entries last := by
  induction entries generalizing draft with
  | nil => simp [reads_nil]
  | cons entry rest ih =>
    rw [reads_cons, addAll_cons]
    cases draft.add entry.1 entry.2 with
    | error failure => simp [Except.bind]
    | ok next => simpa [Except.bind] using ih

end Draft

/-- A declaration comes from a draft that nothing is missing in. -/
theorem ofEntries_eq_ok_iff {declaration : Declaration} {entries : List (String × Value)} :
    ofEntries entries = .ok declaration ↔
      ∃ childrenKey, ({} : Draft).Reads entries ⟨declaration, childrenKey⟩ := by
  simp only [← Draft.addAll_eq_ok_iff, ofEntries_eq_map]
  cases Draft.addAll {} entries with
  | error failure => simp [Except.map]
  | ok last =>
    obtain ⟨_, key⟩ := last
    simp [Except.map]

theorem settings_of_ofEntries {declaration : Declaration} {entries : List (String × Value)}
    (read : ofEntries entries = .ok declaration) :
    declaration.settings = Setting.ofEntries entries := by
  obtain ⟨childrenKey, parts⟩ := ofEntries_eq_ok_iff.mp read
  exact parts.settings.symm

end Declaration

/-- The flag for sharing reads as true. -/
def Entries.Shares (entries : List (String × Value)) : Prop :=
  Declaration.readLast (Declaration.readFlag · false) false (ofRole .sharing entries) = .ok true

theorem Declaration.sharesSettings_iff {declaration : Declaration}
    {entries : List (String × Value)} (read : ofEntries entries = .ok declaration) :
    declaration.sharesSettings ↔ Entries.Shares entries := by
  obtain ⟨childrenKey, parts⟩ := ofEntries_eq_ok_iff.mp read
  rw [Entries.Shares, parts.sharesSettings]
  exact (Except.ok.injEq _ _).to_iff.symm

end HostTree
