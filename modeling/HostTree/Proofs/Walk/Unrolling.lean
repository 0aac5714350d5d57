/-
This file replaces a loop by one node for each of its items.
-/

import HostTree.Proofs.Declaration.Reading
import HostTree.Proofs.Outline.Children
import HostTree.Proofs.Walk.Run

namespace HostTree

/-- This is the text of the template with the item. A template that cannot be resolved stays. -/
def Template.filled (item : Value) (template : String) : String :=
  match resolve template (some item) with
  | .ok text => text
  | .error _ => template

theorem Template.resolve_eq_filled {item : Value} {template : String}
    (resolves : ∃ text, resolve template (some item) = .ok text) :
    resolve template (some item) = .ok (filled item template) := by
  obtain ⟨text, resolved⟩ := resolves
  rw [filled, resolved]

/-- The wildcard holds no placeholder. -/
theorem Template.filled_wildcard (item : Value) : filled item wildcard = wildcard := by
  cases item <;> rfl

namespace Setting

/-- A setting is written when its keyword stands in the configuration or is a shorthand. -/
def isWritten (setting : Setting) : Bool :=
  (Keyword.find? setting.name).any fun found =>
    found.standing = .active ∨ found.standing = .shorthand

/-- The item is put into the string of a setting that is written. -/
def unrolledContent (item : Value) (setting : Setting) : Value :=
  match setting.content with
  | .string template =>
    if setting.isWritten then .string (Template.filled item template) else .string template
  | other => other

def unrolled (item : Value) (setting : Setting) : Setting :=
  ⟨setting.name, setting.unrolledContent item⟩

def Resolves (item : Value) (setting : Setting) : Prop :=
  setting.isWritten → ∀ template, setting.content = .string template →
    ∃ text, Template.resolve template (some item) = .ok text

end Setting

namespace Declaration

/-- The loop goes, and its item is put into the pattern and the settings. -/
def unrolled (item : Value) (declaration : Declaration) : Declaration :=
  { declaration with
    loop := none
    pattern := declaration.pattern.map (Template.filled item)
    settings := declaration.settings.map (Setting.unrolled item) }

structure Resolves (item : Value) (declaration : Declaration) : Prop where
  pattern : ∀ pattern, declaration.pattern = some pattern →
    ∃ text, Template.resolve pattern (some item) = .ok text
  settings : ∀ setting ∈ declaration.settings, setting.Resolves item

end Declaration

/-- The item is put into a pattern of any form, which becomes a string. -/
def Value.unrolledPattern (item content : Value) : Value :=
  match Declaration.readPattern content with
  | .ok pattern => .string (Template.filled item pattern)
  | .error _ => content

/-- The entry for the loop goes, and the item is put into patterns and settings. -/
def Entries.unrolledEntry (item : Value) (entry : String × Value) : Option (String × Value) :=
  match Role.ofKey entry.1 with
  | .looping => none
  | .pattern _ => some (entry.1, Value.unrolledPattern item entry.2)
  | .setting => some (entry.1, Setting.unrolledContent item ⟨entry.1, entry.2⟩)
  | _ => some entry

def Entries.unrolled (item : Value) (entries : List (String × Value)) : List (String × Value) :=
  entries.filterMap (unrolledEntry item)

namespace Entries

variable {item content : Value} {key : String}

theorem unrolledEntry_of_looping (role : Role.ofKey key = .looping) :
    unrolledEntry item (key, content) = none := by
  simp only [unrolledEntry, role]

theorem unrolledEntry_of_pattern {kind : BlockKind} (role : Role.ofKey key = .pattern kind) :
    unrolledEntry item (key, content) = some (key, Value.unrolledPattern item content) := by
  simp only [unrolledEntry, role]

theorem unrolledEntry_of_setting (role : Role.ofKey key = .setting) :
    unrolledEntry item (key, content) =
      some (key, Setting.unrolledContent item ⟨key, content⟩) := by
  simp only [unrolledEntry, role]

theorem unrolledEntry_of_children (role : Role.ofKey key = .children) :
    unrolledEntry item (key, content) = some (key, content) := by
  simp only [unrolledEntry, role]

end Entries

namespace Setting

variable {item : Value} {setting : Setting}

theorem resolveValue_unrolled (written : setting.isWritten) (resolves : setting.Resolves item) :
    Template.resolveValue (setting.unrolledContent item) none =
      Template.resolveValue setting.content (some item) := by
  obtain ⟨name, content⟩ := setting
  cases content with
  | string template =>
    have filled := Template.resolve_eq_filled (resolves written template rfl)
    simpa [unrolledContent, written, Template.resolveValue, Template.resolve] using filled.symm
  | _ => rfl

/-- With the item put in, a setting compiles to the same line, warning or failure. -/
theorem compile_unrolled (resolves : setting.Resolves item) :
    (setting.unrolled item).compile none = setting.compile (some item) := by
  have sameName : (setting.unrolled item).name = setting.name := rfl
  have putIn : (setting.unrolled item).content = setting.unrolledContent item := rfl
  cases known : Keyword.find? setting.name with
  | none => rw [compile_of_unknown known, compile_of_unknown (sameName ▸ known), sameName]
  | some found =>
    have value := fun written : setting.isWritten => resolveValue_unrolled written resolves
    rw [isWritten, known] at value
    rw [compile_of_known known, compile_of_known (sameName ▸ known), putIn]
    cases standing : found.standing with
    | active => rw [value (by simp [standing])]
    | shorthand => rw [value (by simp [standing])]
    | deprecated => rfl
    | ignored => rfl

end Setting

theorem Compilation.settings_unrolled {item : Value} {settings : List Setting}
    (resolves : ∀ setting ∈ settings, setting.Resolves item) :
    Compilation.settings none (settings.map (Setting.unrolled item)) =
      Compilation.settings (some item) settings := by
  induction settings with
  | nil => rfl
  | cons setting rest ih =>
    have first := Setting.compile_unrolled (resolves setting List.mem_cons_self)
    have later := ih fun other among => resolves other (List.mem_cons_of_mem setting among)
    rw [List.map_cons, Compilation.settings, Compilation.settings, later]
    unfold Compilation.setting
    rw [first]

namespace Declaration

variable {item : Value} {declaration : Declaration}

/-- With the item put in, a root has the same name, also when the text of its pattern becomes the
wildcard. -/
theorem blockName_unrolled (resolves : declaration.Resolves item) :
    (declaration.unrolled item).blockName "" none = declaration.blockName "" (some item) := by
  unfold blockName unrolled
  dsimp only
  cases shape : declaration.pattern with
  | none => rfl
  | some pattern =>
    have filled := Template.resolve_eq_filled (resolves.pattern pattern shape)
    dsimp only [Option.map_some]
    rw [String.empty_append, String.empty_append, filled]
    by_cases plain : pattern = wildcard ∧ declaration.kind = .host
    · rw [if_pos plain, plain.1, Template.filled_wildcard, if_pos ⟨rfl, plain.2⟩]
    · rw [if_neg plain]
      split
      case isTrue turned => rw [turned.1]
      case isFalse => rfl

def Draft.unrolled (item : Value) (draft : Draft) : Draft :=
  ⟨draft.declaration.unrolled item, draft.childrenKey⟩

/-- Each entry changes the draft in the same way after the item is put in. -/
theorem Draft.add_unrolled (draft : Draft) (entry : String × Value)
    (loops : Role.ofKey entry.1 = .looping → ∃ loop, Loop.ofValue entry.2 = .ok loop) :
    Corresponds (fun first second : Draft => second = first.unrolled item)
      (draft.add entry.1 entry.2)
      (match Entries.unrolledEntry item entry with
      | none => .ok (draft.unrolled item)
      | some changed => (draft.unrolled item).add changed.1 changed.2) := by
  obtain ⟨key, content⟩ := entry
  unfold Entries.unrolledEntry
  dsimp only at loops ⊢
  cases role : Role.ofKey key with
  | «hiding» =>
    dsimp only
    rw [add_hiding role, add_hiding role]
    exact .map _ fun hidden => rfl
  | naming =>
    dsimp only
    rw [add_naming role, add_naming role]
    exact .map _ fun namesChildren => rfl
  | sharing =>
    dsimp only
    rw [add_sharing role, add_sharing role]
    exact .map _ fun sharesSettings => rfl
  | looping =>
    obtain ⟨loop, read⟩ := loops role
    rw [add_looping role, read]
    exact .success rfl
  | children =>
    dsimp only
    rw [add_children role, add_children role]
    cases second : draft.childrenKey with
    | none =>
      rw [unrolled, second]
      exact .map _ fun children => rfl
    | some first =>
      rw [unrolled, second]
      exact .failure _
  | pattern kind =>
    dsimp only
    rw [add_pattern role, add_pattern role]
    cases shape : draft.declaration.pattern with
    | some pattern =>
      rw [if_pos Option.isSome_some, unrolled, Declaration.unrolled, shape]
      exact .failure _
    | none =>
      rw [if_neg (by simp), if_neg (by simp [unrolled, Declaration.unrolled, shape])]
      unfold Value.unrolledPattern
      cases found : readPattern content with
      | error flaw =>
        dsimp only
        rw [found]
        exact .failure _
      | ok pattern => exact .success rfl
  | setting =>
    dsimp only
    rw [add_setting role, add_setting role]
    apply Corresponds.success
    simp only [unrolled, Declaration.unrolled, Setting.unrolled, List.map_append,
      List.map_singleton]

/-- Reading the entries with the item put in gives the declaration with the item put in. -/
theorem ofEntries_unrolled {entries : List (String × Value)}
    (read : ofEntries entries = .ok declaration) :
    ofEntries (Entries.unrolled item entries) = .ok (declaration.unrolled item) := by
  rw [ofEntries_eq_map] at read ⊢
  cases all : Draft.addAll {} entries with
  | error failure =>
    rw [all] at read
    cases read
  | ok last =>
    rw [all] at read
    cases read
    have follows : Corresponds (fun first second : Draft => second = first.unrolled item)
        (Draft.addAll {} entries) (Draft.addAll {} (Entries.unrolled item entries)) := by
      apply Draft.addAll_corresponds
      case start => rfl
      case step =>
        rintro entry among first second rfl
        apply Draft.add_unrolled
        intro role
        obtain ⟨before, after, step⟩ := Draft.add_of_addAll all among
        rw [Draft.add_looping role] at step
        cases loopRead : Loop.ofValue entry.2 with
        | ok loop => exact ⟨loop, rfl⟩
        | error flaw =>
          rw [loopRead] at step
          cases step
    rw [all] at follows
    generalize Draft.addAll {} (Entries.unrolled item entries) = result at follows
    cases follows with
    | success relation =>
      rw [relation]
      rfl

end Declaration

theorem Entries.childItems_unrolled (item : Value) (entries : List (String × Value)) :
    childItems (unrolled item entries) = childItems entries := by
  induction entries with
  | nil => rfl
  | cons entry rest ih =>
    rw [unrolled, List.filterMap_cons, childItems]
    unfold unrolledEntry
    cases role : Role.ofKey entry.1 <;> simp [childItems, role, ← ih] <;> rfl

namespace Outline

/-- The rounds of an unrolled root do what the round of its item does. -/
theorem iterate_unrolled {item : Value} {declaration : Declaration}
    (resolves : declaration.Resolves item) (alone : declaration.sharesSettings = false)
    (children : List Outline) :
    iterate (declaration.unrolled item) (declaration.unrolled item).settings "" children none =
      iterate declaration declaration.settings "" children (some item) := by
  have shared (name : String) (settings : List Setting) :
      declaration.settingsForChildren name settings = [] := by
    simp [Declaration.settingsForChildren, alone]
  have sharedUnrolled (name : String) (settings : List Setting) :
      (declaration.unrolled item).settingsForChildren name settings = [] :=
    shared name settings
  have settings : Compilation.settings none (declaration.unrolled item).settings =
      Compilation.settings (some item) declaration.settings :=
    Compilation.settings_unrolled resolves.settings
  unfold iterate
  simp only [shared, sharedUnrolled]
  rw [Declaration.blockName_unrolled resolves, settings]
  rfl

/-- A loop over the items compiles as the list of the unrolled roots does. -/
theorem forM_iterate_eq_compileAll {declaration : Declaration} (children : List Outline)
    {items : List Value} (resolves : ∀ item ∈ items, declaration.Resolves item)
    (alone : declaration.sharesSettings = false) :
    (items.map some).forM (iterate declaration declaration.settings "" children) =
      compileAll "" [] (items.map fun item => node (declaration.unrolled item) children) := by
  induction items with
  | nil => rfl
  | cons item rest ih =>
    have round := iterate_unrolled (resolves item List.mem_cons_self) alone children
    have rounds := ih fun other among => resolves other (List.mem_cons_of_mem item among)
    have single : compile "" [] (node (declaration.unrolled item) children) =
        iterate declaration declaration.settings "" children (some item) := by
      rw [← round]
      exact bind_pure_unit
    rw [List.map_cons, List.map_cons, compileAll, single, ← rounds]
    rfl

end Outline

/-- A root that loops compiles as the list of its rounds does, with the items put in. -/
theorem compile_eq_unrolled {entries : List (String × Value)} {declaration : Declaration}
    {loop : Loop} (read : Declaration.ofEntries entries = .ok declaration)
    (looped : declaration.loop = some loop) (alone : declaration.sharesSettings = false)
    (resolves : ∀ item ∈ loop.elements, declaration.Resolves item) :
    compile (.sequence [.mapping entries]) =
      compile (.sequence (loop.elements.map fun item =>
        .mapping (Entries.unrolled item entries))) := by
  suffices Outline.compileAll "" [] (Outline.ofDocument (.sequence [.mapping entries])) =
      Outline.compileAll "" [] (Outline.ofDocument (.sequence (loop.elements.map fun item =>
        .mapping (Entries.unrolled item entries)))) by
    rw [compile, compile, Session.feed, Session.feed, this]
  have root : Outline.ofValue (.mapping entries) =
      .node declaration ((Entries.childItems entries).map Outline.ofValue) :=
    Outline.ofValue_of_success read
  have rounds (item : Value) : Outline.ofValue (.mapping (Entries.unrolled item entries)) =
      .node (declaration.unrolled item) ((Entries.childItems entries).map Outline.ofValue) := by
    rw [Outline.ofValue_of_success (Declaration.ofEntries_unrolled read),
      Entries.childItems_unrolled]
  have items : declaration.items = loop.elements.map some := by
    rw [Declaration.items, looped]
  calc Outline.compileAll "" [] (Outline.ofDocument (.sequence [.mapping entries]))
      = Outline.compile "" [] (Outline.ofValue (.mapping entries)) := bind_pure_unit
    _ = (loop.elements.map some).forM (Outline.iterate declaration declaration.settings ""
          ((Entries.childItems entries).map Outline.ofValue)) := by
        rw [root, Outline.compile_node, items]
        rfl
    _ = Outline.compileAll "" [] (loop.elements.map fun item =>
          .node (declaration.unrolled item) ((Entries.childItems entries).map Outline.ofValue)) :=
        Outline.forM_iterate_eq_compileAll _ resolves alone
    _ = Outline.compileAll "" [] (Outline.ofItems (loop.elements.map fun item =>
          .mapping (Entries.unrolled item entries))) := by
        rw [Outline.ofItems_eq_map, List.map_map]
        exact congrArg _ (List.map_congr_left fun item _ => (rounds item).symm)

/-- An item with a brace is not read again as a template. The protocol is ignored, so its text need
not be a template at all. -/
theorem compile_eq_unrolled_braces :
    compile (.sequence [.mapping
        [("Host", .sequence [.string "e{item}", .string "f"]),
          ("with_items", .sequence [.string "\x7b", .integer 2]), ("Port", .string "{item}"),
          ("Protocol", .string "\x7b"), ("subhosts", .sequence [.string "q"])]]) =
      compile (.sequence [
        .mapping [("Host", .string "e\x7b f"), ("Port", .string "\x7b"),
          ("Protocol", .string "\x7b"), ("subhosts", .sequence [.string "q"])],
        .mapping [("Host", .string "e2 f"), ("Port", .string "2"), ("Protocol", .string "\x7b"),
          ("subhosts", .sequence [.string "q"])]]) := by
  let root : List (String × Value) :=
    [("Host", .sequence [.string "e{item}", .string "f"]),
      ("with_items", .sequence [.string "\x7b", .integer 2]), ("Port", .string "{item}"),
      ("Protocol", .string "\x7b"), ("subhosts", .sequence [.string "q"])]
  have option : ∀ key ∈ ["Port", "Protocol"], Role.ofKey key = .setting :=
    Role.ofKey_of_forall_notMem_reserved (by decide +kernel)
  have port := option "Port" (by simp)
  have protocol := option "Protocol" (by simp)
  have pattern : Declaration.readPattern (.sequence [.string "e{item}", .string "f"]) =
      .ok "e{item} f" := rfl
  have read : Declaration.ofEntries root =
      .ok { pattern := some "e{item} f", loop := some (.items [.string "\x7b", .integer 2])
            settings := [⟨"Port", .string "{item}"⟩, ⟨"Protocol", .string "\x7b"⟩]
            children := [.name "q"] } := by
    rw [Declaration.ofEntries_eq_map]
    simp only [root, Declaration.Draft.addAll_cons, Declaration.Draft.add_pattern Role.ofKey_host,
      pattern, Declaration.Draft.add_looping Role.ofKey_loop, Declaration.Draft.add_setting port,
      Declaration.Draft.add_setting protocol, Declaration.Draft.add_children Role.ofKey_subhosts]
    rfl
  have written (content : Value) : Setting.isWritten ⟨"Port", content⟩ = true :=
    show (Keyword.find? "Port").any _ = true by decide +kernel
  have ignored (content : Value) : Setting.isWritten ⟨"Protocol", content⟩ = false :=
    show (Keyword.find? "Protocol").any _ = false by decide +kernel
  have rounds := compile_eq_unrolled read rfl rfl (by
    intro item among
    constructor
    case pattern =>
      rintro pattern ⟨⟩
      rcases List.mem_pair.mp among with rfl | rfl
      · exact ⟨"e\x7b f", rfl⟩
      · exact ⟨"e2 f", rfl⟩
    case settings =>
      intro setting member isWritten template content
      rcases List.mem_pair.mp member with rfl | rfl
      · cases content
        rcases List.mem_pair.mp among with rfl | rfl
        · exact ⟨"\x7b", rfl⟩
        · exact ⟨"2", rfl⟩
      · rw [ignored] at isWritten
        cases isWritten)
  have unrolled (item : Value) : Entries.unrolled item root =
      [("Host", .string (Template.filled item "e{item} f")),
        ("Port", .string (Template.filled item "{item}")), ("Protocol", .string "\x7b"),
        ("subhosts", .sequence [.string "q"])] := by
    rw [Entries.unrolled,
      List.filterMap_cons_some (Entries.unrolledEntry_of_pattern Role.ofKey_host),
      List.filterMap_cons_none (Entries.unrolledEntry_of_looping Role.ofKey_loop),
      List.filterMap_cons_some (Entries.unrolledEntry_of_setting port),
      List.filterMap_cons_some (Entries.unrolledEntry_of_setting protocol),
      List.filterMap_cons_some (Entries.unrolledEntry_of_children Role.ofKey_subhosts),
      List.filterMap_nil]
    simp only [Value.unrolledPattern, pattern, Setting.unrolledContent, written, ignored, if_true,
      Bool.false_eq_true, if_false]
  have braceName : Template.filled (.string "\x7b") "e{item} f" = "e\x7b f" := rfl
  have bracePort : Template.filled (.string "\x7b") "{item}" = "\x7b" := rfl
  have numberName : Template.filled (.integer 2) "e{item} f" = "e2 f" := rfl
  have numberPort : Template.filled (.integer 2) "{item}" = "2" := rfl
  rw [rounds]
  simp only [Loop.elements, List.map_cons, List.map_nil, unrolled, braceName, bracePort,
    numberName, numberPort]

end HostTree
