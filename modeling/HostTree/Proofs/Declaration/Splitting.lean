/-
This file says which nodes can be read and shows that their entries are split without loss.
-/

import HostTree.Proofs.Declaration.Content
import HostTree.Proofs.Declaration.Order
import HostTree.Proofs.Entries.Insertion
import HostTree.Proofs.Setting.Order
import Mathlib.Data.Set.List

namespace HostTree

namespace Entries

/-- The keys of patterns may have any case. -/
def isPatternKey (key : String) : Bool :=
  Text.foldCase key ∈ ["host", "match"]

/-- Children stand under one of two keys. -/
def isFamilyKey (key : String) : Bool :=
  key ∈ ["subhosts", "hosts"]

/-- These keys stand for a truth value. -/
def isFlagKey (key : String) : Bool :=
  key ∈ ["hide", "prefix", "inherit"]

/-- The key of a pattern tells the kind of the block. -/
def patternKind (key : String) : BlockKind :=
  if Text.foldCase key = "match" then .matching else .host

/-- All other keys are those of options. -/
def isOptionKey (key : String) : Bool :=
  !isFlagKey key && key != "with_items" && !isFamilyKey key && !isPatternKey key

/-- The entries are taken in their order. -/
def underKeys (keys : String → Bool) (entries : List (String × Value)) : List (String × Value) :=
  entries.filter fun entry => keys entry.1

/-- Each content suits its key, and there is at most one pattern and one list of children. -/
structure WellFormed (entries : List (String × Value)) : Prop where
  flag : ∀ entry ∈ underKeys isFlagKey entries, entry.2.IsFlag
  loop : ∀ content ∈ get? "with_items" entries, ∃ loop, Loop.ofValue content = .ok loop
  pattern : ∀ entry ∈ underKeys isPatternKey entries, entry.2.IsPattern
  onePattern : (underKeys isPatternKey entries).length ≤ 1
  family : ∀ entry ∈ underKeys isFamilyKey entries, entry.2.IsFamily
  oneFamily : (underKeys isFamilyKey entries).length ≤ 1

end Entries

open Entries in
/-- The declaration has all that the entries say, and nothing else. -/
structure Declaration.IsOf (declaration : Declaration) (entries : List (String × Value)) :
    Prop where
  hidden : declaration.hidden = (get? "hide" entries).elim false (Value.flag false)
  namesChildren : declaration.namesChildren = (get? "prefix" entries).elim true (Value.flag true)
  sharesSettings : declaration.sharesSettings =
    (get? "inherit" entries).elim false (Value.flag false)
  loop : (get? "with_items" entries).elim (.ok none) Loop.ofValue = .ok declaration.loop
  kind : declaration.kind =
    (underKeys isPatternKey entries).head?.elim .host fun entry => patternKind entry.1
  pattern : declaration.pattern =
    (underKeys isPatternKey entries).head?.map fun entry => entry.2.patternText
  settings : declaration.settings =
    (underKeys isOptionKey entries).map fun entry => ⟨entry.1, entry.2⟩
  children : declaration.children.map Child.item =
    (underKeys isFamilyKey entries).head?.elim [] fun entry => entry.2.family

namespace Role

/-- Flags and loops have a single key. -/
theorem ofKey_eq_iff_of_key? {role : Role} {key name : String} (single : role.key? = some name) :
    ofKey key = role ↔ key = name := by
  refine ⟨fun same => eq_of_key? (by rw [same, single]), ?_⟩
  rintro rfl
  unfold key? at single
  split at single <;> cases single <;> simp [ofKey]

theorem ofKey_eq_children_iff {key : String} : ofKey key = .children ↔ Entries.isFamilyKey key := by
  unfold ofKey Entries.isFamilyKey
  grind

/-- The keys of patterns are different from the other keys of a node. -/
theorem isPatternKey_eq_false : ∀ name ∈
    ["hide", "prefix", "inherit", "with_items", "subhosts", "hosts"],
      Entries.isPatternKey name = false := by
  decide +kernel

theorem sameFolded_iff {key : String} :
    (Text.sameFolded key "host" ↔ Text.foldCase key = "host") ∧
      (Text.sameFolded key "match" ↔ Text.foldCase key = "match") := by
  have host : Text.foldCase "host" = "host" := by decide +kernel
  have matching : Text.foldCase "match" = "match" := by decide +kernel
  rw [Text.sameFolded, Text.sameFolded, host, matching, beq_iff_eq, beq_iff_eq]
  exact ⟨.rfl, .rfl⟩

/-- The role of a pattern is that of its key, and it has the kind of the key. -/
theorem ofKey_eq_pattern_iff {key : String} {kind : BlockKind} :
    ofKey key = .pattern kind ↔ Entries.isPatternKey key ∧ Entries.patternKind key = kind := by
  have single := isPatternKey_eq_false
  unfold ofKey Entries.patternKind
  simp only [sameFolded_iff.1, sameFolded_iff.2]
  unfold Entries.isPatternKey at single ⊢
  grind

/-- Any key that is not one of the others is the name of an option. -/
theorem ofKey_eq_setting_iff {key : String} : ofKey key = .setting ↔ Entries.isOptionKey key := by
  unfold ofKey Entries.isOptionKey Entries.isFlagKey Entries.isFamilyKey Entries.isPatternKey
  simp only [sameFolded_iff.1, sameFolded_iff.2]
  grind

end Role

namespace Entries

variable {entries : List (String × Value)}

theorem ofRole_children (entries : List (String × Value)) :
    ofRole .children entries = underKeys isFamilyKey entries := by
  simp only [ofRole, underKeys, Role.ofKey_eq_children_iff, Bool.decide_eq_true]

/-- The patterns are the entries under the keys of patterns. -/
theorem patterns_eq_map (entries : List (String × Value)) :
    patterns entries =
      (underKeys isPatternKey entries).map fun entry => (patternKind entry.1, entry.2) := by
  induction entries with
  | nil => rfl
  | cons entry rest ih =>
    rw [patterns_cons, underKeys, List.filter_cons, ← underKeys]
    split
    · next kind role =>
      obtain ⟨own, same⟩ := Role.ofKey_eq_pattern_iff.mp role
      rw [if_pos own, List.map_cons, same, ih]
    · next other =>
      have foreign : ¬ isPatternKey entry.1 := fun own =>
        other _ (Role.ofKey_eq_pattern_iff.mpr ⟨own, rfl⟩)
      rw [if_neg foreign, ih]

/-- The settings are the entries under the names of options. -/
theorem settings_eq_map (entries : List (String × Value)) :
    Setting.ofEntries entries =
      (underKeys isOptionKey entries).map fun entry => ⟨entry.1, entry.2⟩ := by
  induction entries with
  | nil => rfl
  | cons entry rest ih =>
    rw [Setting.ofEntries_cons, underKeys, List.filter_cons, ← underKeys, ih]
    simp only [Role.ofKey_eq_setting_iff]
    split <;> rfl

/-- With distinct keys a role with a single key has the entry of this key. -/
theorem head?_ofRole {role : Role} {name : String} (single : role.key? = some name)
    (entries : List (String × Value)) :
    (ofRole role entries).head?.map Prod.snd = get? name entries := by
  simp only [ofRole, List.head?_filter, get?, Role.ofKey_eq_iff_of_key? single, beq_eq_decide]

end Entries

namespace Declaration

variable {entries : List (String × Value)}

/-- With distinct keys a flag or a loop is read from its one entry. -/
theorem readLast_ofRole {Flaw Content : Type} {read : Value → Except Flaw Content}
    {usual : Content} {role : Role} {name : String} (single : role.key? = some name)
    (distinct : Entries.Distinct entries) :
    readLast read usual (Entries.ofRole role entries) =
      (Entries.get? name entries).elim (.ok usual) read := by
  have short := Entries.length_ofRole_le_one single distinct
  rw [← Entries.head?_ofRole single entries]
  match Entries.ofRole role entries, short with
  | [], _ => rfl
  | [entry], _ =>
    rw [readLast_cons]
    dsimp only [List.head?_cons, Option.map_some, Option.elim_some]
    cases read entry.2 <;> rfl

/-- A node can be named exactly if it has at most one pattern and this pattern can be read. -/
theorem readNaming_eq_ok_iff {patterns : List (BlockKind × Value)}
    {last : BlockKind × Option String} :
    readNaming (.host, none) patterns = .ok last ↔
      patterns.length ≤ 1 ∧ (∀ named ∈ patterns, named.2.IsPattern) ∧
        (patterns.head?.elim .host Prod.fst,
          patterns.head?.map fun named => named.2.patternText) = last := by
  match patterns with
  | [] =>
    have read : readNaming (.host, none) [] = .ok (.host, none) := rfl
    simp [read]
  | [named] =>
    have read : readNaming (.host, none) [named] =
        (readPattern named.2).map fun text => (named.1, some text) := by
      rw [readNaming, List.foldlM_cons]
      cases readPattern named.2 <;> rfl
    rw [read, Except.map_eq_ok_iff]
    simp [readPattern_eq_ok_iff, and_assoc]
  | first :: second :: rest =>
    constructor
    · intro success
      exact absurd (length_le_one_of_readNaming success) (by simp)
    · rintro ⟨short, _⟩
      exact absurd short (by simp)

/-- The children can be read exactly if they stand under one key and in a list of nodes and names.
-/
theorem readFamily_eq_ok_iff {found : List (String × Value)} {children : List Child} :
    (∃ childrenKey, readFamily ([], none) found = .ok (children, childrenKey)) ↔
      found.length ≤ 1 ∧ (∀ entry ∈ found, entry.2.IsFamily) ∧
        children.map Child.item = found.head?.elim [] fun entry => entry.2.family := by
  match found with
  | [] =>
    have read : readFamily ([], none) [] = .ok ([], none) := rfl
    simp [read, eq_comm]
  | [entry] =>
    have read : readFamily ([], none) [entry] =
        (readChildren entry.2).map fun children => (children, some entry.1) := by
      rw [readFamily, List.foldlM_cons]
      cases readChildren entry.2 <;> rfl
    simp [read, Except.map_eq_ok_iff, readChildren_eq_ok_iff]
  | first :: second :: rest =>
    constructor
    · rintro ⟨childrenKey, success⟩
      exact absurd (length_le_one_of_readFamily success) (by simp)
    · rintro ⟨short, _⟩
      exact absurd short (by simp)

/-- A flag that is missing has its usual value. -/
theorem readFlag_elim_eq_ok_iff {content? : Option Value} {usual truth : Bool} :
    content?.elim (.ok usual) (readFlag · usual) = .ok truth ↔
      (∀ content ∈ content?, content.IsFlag) ∧ truth = content?.elim usual (Value.flag usual) := by
  cases content? <;> simp [readFlag_eq_ok_iff, @eq_comm _ truth]

/-- With distinct keys it is enough to look at what is found under each flag. -/
theorem isFlag_iff (distinct : Entries.Distinct entries) :
    (∀ entry ∈ Entries.underKeys Entries.isFlagKey entries, entry.2.IsFlag) ↔
      (∀ content ∈ Entries.get? "hide" entries, content.IsFlag) ∧
      (∀ content ∈ Entries.get? "prefix" entries, content.IsFlag) ∧
      ∀ content ∈ Entries.get? "inherit" entries, content.IsFlag := by
  simp only [Option.mem_def, Entries.get?_eq_some_iff distinct, Entries.underKeys, List.mem_filter,
    Entries.isFlagKey, Prod.forall]
  grind

/-- With distinct keys a node is read when it is well-formed, and then as what its entries say. -/
theorem ofEntries_eq_ok_iff_isOf (distinct : Entries.Distinct entries)
    {declaration : Declaration} :
    ofEntries entries = .ok declaration ↔
      Entries.WellFormed entries ∧ declaration.IsOf entries := by
  have namings : (∀ named ∈ (Entries.underKeys Entries.isPatternKey entries).map fun entry =>
      (Entries.patternKind entry.1, entry.2), named.2.IsPattern) ↔
      ∀ entry ∈ Entries.underKeys Entries.isPatternKey entries, entry.2.IsPattern :=
    List.forall_mem_map
  simp only [ofEntries_eq_ok_iff, Draft.reads_iff, exists_and_left, readFamily_eq_ok_iff,
    readLast_ofRole (rfl : Role.hiding.key? = _) distinct,
    readLast_ofRole (rfl : Role.naming.key? = _) distinct,
    readLast_ofRole (rfl : Role.sharing.key? = _) distinct,
    readLast_ofRole (rfl : Role.looping.key? = _) distinct, readFlag_elim_eq_ok_iff,
    Entries.patterns_eq_map, Entries.settings_eq_map, readNaming_eq_ok_iff, List.length_map,
    namings, Entries.ofRole_children, List.nil_append, Prod.mk.injEq]
  constructor
  · rintro ⟨⟨hideFlag, hidden⟩, ⟨prefixFlag, namesChildren⟩, ⟨inheritFlag, sharesSettings⟩, loop,
      ⟨onePattern, patterns, kind, pattern⟩, settings, ⟨oneFamily, families, children⟩⟩
    refine ⟨⟨(isFlag_iff distinct).mpr ⟨hideFlag, prefixFlag, inheritFlag⟩, ?_, patterns,
      onePattern, families, oneFamily⟩, ⟨hidden, namesChildren, sharesSettings, loop, ?_, ?_,
      settings.symm, children⟩⟩
    · intro content found
      rw [Option.mem_def.mp found] at loop
      exact ⟨_, loop⟩
    · rw [← kind, List.head?_map, Option.elim_map]
      rfl
    · rw [← pattern, List.head?_map, Option.map_map]
      rfl
  · rintro ⟨wellFormed, isOf⟩
    obtain ⟨hideFlag, prefixFlag, inheritFlag⟩ := (isFlag_iff distinct).mp wellFormed.flag
    refine ⟨⟨hideFlag, isOf.hidden⟩, ⟨prefixFlag, isOf.namesChildren⟩,
      ⟨inheritFlag, isOf.sharesSettings⟩, isOf.loop,
      ⟨wellFormed.onePattern, wellFormed.pattern, ?_, ?_⟩, isOf.settings.symm,
      ⟨wellFormed.oneFamily, wellFormed.family, isOf.children⟩⟩
    · rw [isOf.kind, List.head?_map, Option.elim_map]
      rfl
    · rw [isOf.pattern, List.head?_map, Option.map_map]
      rfl

/-- A list of nodes and names is a list of children. -/
theorem exists_children {content : Value} (isFamily : content.IsFamily) :
    ∃ children : List Child, children.map Child.item = content.family := by
  cases content with
  | sequence items =>
    have each : ∀ item ∈ items, item ∈ Set.range Child.item := by
      intro item among
      have isChild : item.IsChild := isFamily item among
      cases item with
      | mapping entries => exact ⟨.node entries, rfl⟩
      | string pattern => exact ⟨.name pattern, rfl⟩
      | _ => cases isChild
    exact (Set.range_list_map Child.item).symm.subset each
  | _ => exact ⟨[], rfl⟩

/-- A well-formed node is the node of some declaration. -/
theorem exists_isOf (wellFormed : Entries.WellFormed entries) :
    ∃ declaration : Declaration, declaration.IsOf entries := by
  have loop : ∃ loop, (Entries.get? "with_items" entries).elim (.ok none) Loop.ofValue =
      .ok loop := by
    cases found : Entries.get? "with_items" entries with
    | none => exact ⟨none, rfl⟩
    | some content => exact wellFormed.loop content found
  have children : ∃ children : List Child, children.map Child.item =
      (Entries.underKeys Entries.isFamilyKey entries).head?.elim [] fun entry =>
        entry.2.family := by
    cases found : (Entries.underKeys Entries.isFamilyKey entries).head? with
    | none => exact ⟨[], rfl⟩
    | some entry => exact exists_children (wellFormed.family entry (List.mem_of_head? found))
  obtain ⟨loop, loopRead⟩ := loop
  obtain ⟨children, childrenRead⟩ := children
  exact ⟨⟨_, _, _, _, _, loop, _, children⟩, rfl, rfl, rfl, loopRead, rfl, rfl, rfl, childrenRead⟩

/-- Nodes are split without loss. A node with distinct keys is read exactly when it is well-formed.
Then the declaration has what the entries say, each option in its place, and the order of the
entries shows in the order of the options only. -/
theorem ofEntries_splits (distinct : Entries.Distinct entries) :
    ((∃ declaration, ofEntries entries = .ok declaration) ↔ Entries.WellFormed entries) ∧
    ∀ declaration, ofEntries entries = .ok declaration →
      declaration.IsOf entries ∧
      ∀ permuted, entries.Perm permuted → ∃ settings, settings.Perm declaration.settings ∧
        ofEntries permuted = .ok { declaration with settings := settings } := by
  refine ⟨⟨?_, ?_⟩, ?_⟩
  · rintro ⟨declaration, read⟩
    exact ((ofEntries_eq_ok_iff_isOf distinct).mp read).1
  · intro wellFormed
    obtain ⟨declaration, isOf⟩ := exists_isOf wellFormed
    exact ⟨declaration, (ofEntries_eq_ok_iff_isOf distinct).mpr ⟨wellFormed, isOf⟩⟩
  · intro declaration read
    refine ⟨((ofEntries_eq_ok_iff_isOf distinct).mp read).2, ?_⟩
    intro permuted perm
    refine ⟨Setting.ofEntries permuted, ?_, ofEntries_of_perm perm distinct read⟩
    rw [settings_of_ofEntries read]
    exact Setting.ofEntries_perm perm.symm

/-- A pattern key in capitals and a list within a list are read, and a flag in capitals is an
option. -/
theorem ofEntries_splits_capitals :
    ∃ declaration, ofEntries [("HIDE", .boolean true), ("hosts", .sequence [.string "x"]),
        ("hide", .string "On"),
        ("MATCH", .sequence [.string "a", .sequence [.integer 1, .boolean true]])] =
          .ok declaration ∧
      declaration.kind = .matching ∧ declaration.pattern = some "a 1 yes" ∧
      declaration.hidden = true ∧ declaration.settings.map Setting.name = ["HIDE"] := by
  let pattern : Value := .sequence [.string "a", .sequence [.integer 1, .boolean true]]
  let node : List (String × Value) := [("HIDE", .boolean true), ("hosts", .sequence [.string "x"]),
    ("hide", .string "On"), ("MATCH", pattern)]
  have distinct : Entries.Distinct node := by simp [Entries.Distinct, node]
  have patternKeys : Entries.isPatternKey "HIDE" = false ∧ Entries.isPatternKey "hosts" = false ∧
      Entries.isPatternKey "hide" = false ∧ Entries.isPatternKey "MATCH" = true := by
    decide +kernel
  have onWord : Text.foldCase "On" = "on" := by decide +kernel
  have flags : Entries.underKeys Entries.isFlagKey node = [("hide", .string "On")] := by
    simp [Entries.underKeys, Entries.isFlagKey, node]
  have patterns : Entries.underKeys Entries.isPatternKey node = [("MATCH", pattern)] := by
    simp [Entries.underKeys, patternKeys, node]
  have families : Entries.underKeys Entries.isFamilyKey node =
      [("hosts", .sequence [.string "x"])] := by
    simp [Entries.underKeys, Entries.isFamilyKey, node]
  have options : Entries.underKeys Entries.isOptionKey node = [("HIDE", .boolean true)] := by
    simp [Entries.underKeys, Entries.isOptionKey, Entries.isFlagKey, Entries.isFamilyKey,
      patternKeys, node]
  have isPattern : pattern.IsPattern := by
    have inner : (Value.sequence [.integer 1, .boolean true]).IsPattern :=
      .sequence (by simp [Value.isPattern_iff_isWord, Value.IsWord])
    exact .sequence (by simp [Value.isPattern_iff_isWord, Value.IsWord, inner])
  have wellFormed : Entries.WellFormed node := by
    constructor
    case flag => simp [flags, Value.IsFlag, onWord]
    case loop => simp [Entries.get?, node]
    case pattern => simp [patterns, isPattern]
    case onePattern => simp [patterns]
    case family => simp [families, Value.IsFamily, Value.IsChild]
    case oneFamily => simp [families]
  obtain ⟨accepted, split⟩ := ofEntries_splits distinct
  obtain ⟨declaration, read⟩ := accepted.mpr wellFormed
  obtain ⟨isOf, _⟩ := split declaration read
  refine ⟨declaration, read, ?_, ?_, ?_, ?_⟩
  · rw [isOf.kind, patterns]
    decide +kernel
  · rw [isOf.pattern, patterns]
    decide +kernel
  · rw [isOf.hidden]
    simp [Entries.get?, node, Value.flag, onWord]
  · rw [isOf.settings, options]
    rfl

end Declaration

end HostTree
