/-
This file follows the reading of a node when some of its entries change or are left out.
-/

import HostTree.Compile
import HostTree.Proofs.Declaration.Parts

namespace HostTree

namespace Declaration

/-- What the children get from a node is changed, and its name and loop stay. -/
def adjust (shares : Bool → Bool) (settings : List Setting → List Setting)
    (children : List Child → List Child) (declaration : Declaration) : Declaration :=
  { declaration with
    sharesSettings := shares declaration.sharesSettings
    settings := settings declaration.settings
    children := children declaration.children }

section

variable (shares : Bool → Bool) (settings : List Setting → List Setting)
  (children : List Child → List Child) (declaration : Declaration)

@[simp] theorem settings_adjust :
    (declaration.adjust shares settings children).settings = settings declaration.settings := rfl

@[simp] theorem items_adjust :
    (declaration.adjust shares settings children).items = declaration.items := rfl

@[simp] theorem blockName_adjust (parentName : String) (item : Option Value) :
    (declaration.adjust shares settings children).blockName parentName item =
      declaration.blockName parentName item := rfl

end

/-- What an entry changes does not depend on the draft. -/
def changeOf (key : String) (content : Value) : Except Failure (Declaration → Declaration) :=
  match Role.ofKey key with
  | .hiding => (blame key (readFlag content false)).map fun hidden declaration =>
    { declaration with hidden := hidden }
  | .naming => (blame key (readFlag content true)).map fun namesChildren declaration =>
    { declaration with namesChildren := namesChildren }
  | .sharing => (blame key (readFlag content false)).map fun sharesSettings declaration =>
    { declaration with sharesSettings := sharesSettings }
  | .looping => ((Loop.ofValue content).mapError Failure.invalidLoop).map fun loop declaration =>
    { declaration with loop := loop }
  | .children => (blame key (readChildren content)).map fun children declaration =>
    { declaration with children := children }
  | .pattern kind => (blame key (readPattern content)).map fun pattern declaration =>
    { declaration with kind := kind, pattern := some pattern }
  | .setting => .ok fun declaration =>
    { declaration with settings := declaration.settings ++ [⟨key, content⟩] }

namespace Draft

/-- A draft refuses a second pattern and a second key for children. Else it says which key for
children it has then. -/
def accept (draft : Draft) (key : String) : Except Failure (Option String) :=
  match Role.ofKey key with
  | .children =>
    match draft.childrenKey with
    | some first => .error (.invalidDirective key (.secondChildren first))
    | none => .ok (some key)
  | .pattern _ =>
    if draft.declaration.pattern.isSome then .error (.invalidDirective key .secondPattern)
    else .ok draft.childrenKey
  | _ => .ok draft.childrenKey

def revise (change : Declaration → Declaration) (draft : Draft) : Draft :=
  ⟨change draft.declaration, draft.childrenKey⟩

variable {draft : Draft} {key : String} {content : Value}

/-- A draft takes an entry when it accepts the key and the entry can be read. -/
theorem add_eq : draft.add key content =
    (draft.accept key).bind fun childrenKey =>
      (changeOf key content).map fun change => ⟨change draft.declaration, childrenKey⟩ := by
  unfold accept changeOf
  cases role : Role.ofKey key with
  | «hiding» =>
    rw [add_hiding role]
    cases readFlag content false <;> rfl
  | naming =>
    rw [add_naming role]
    cases readFlag content true <;> rfl
  | sharing =>
    rw [add_sharing role]
    cases readFlag content false <;> rfl
  | looping =>
    rw [add_looping role]
    cases Loop.ofValue content <;> rfl
  | children =>
    rw [add_children role]
    dsimp only
    cases draft.childrenKey with
    | some first => rfl
    | none => cases readChildren content <;> rfl
  | pattern kind =>
    rw [add_pattern role]
    dsimp only
    split
    · rfl
    · cases readPattern content <;> rfl
  | setting =>
    rw [add_setting role]
    rfl

/-- A change of the declaration before an entry is the same as one after it, if the entry does not
notice it. -/
theorem add_revise {change : Declaration → Declaration}
    (pattern : ∀ declaration, (change declaration).pattern = declaration.pattern)
    (unnoticed : ∀ added, changeOf key content = .ok added →
      ∀ declaration, added (change declaration) = change (added declaration)) :
    (draft.revise change).add key content = (draft.add key content).map (revise change) := by
  have accepted : (draft.revise change).accept key = draft.accept key := by
    unfold accept revise
    rw [pattern]
  rw [add_eq, add_eq, accepted]
  cases draft.accept key with
  | error failure => rfl
  | ok childrenKey =>
    cases read : changeOf key content with
    | error failure => rfl
    | ok added =>
      have same := unnoticed added read draft.declaration
      exact congrArg (fun result => Except.ok (Draft.mk result childrenKey)) same

/-- Drafts that a change makes the same stay so after an entry that does not notice the change. -/
theorem add_sameAfter {change : Declaration → Declaration} {first second : Draft}
    (same : second.revise change = first.revise change)
    (pattern : ∀ declaration, (change declaration).pattern = declaration.pattern)
    (unnoticed : ∀ added, changeOf key content = .ok added →
      ∀ declaration, added (change declaration) = change (added declaration)) :
    Corresponds (fun next other => other.revise change = next.revise change)
      (first.add key content) (second.add key content) := by
  apply Corresponds.of_map_eq
  rw [← add_revise pattern unnoticed, ← add_revise pattern unnoticed, same]

/-- Entries may be left out when a change of the declaration swallows what they do. -/
theorem addAll_filter {change : Declaration → Declaration} {keep : String × Value → Bool}
    {entries : List (String × Value)}
    (pattern : ∀ declaration, (change declaration).pattern = declaration.pattern)
    (kept : ∀ entry ∈ entries, keep entry = true → ∀ added, changeOf entry.1 entry.2 = .ok added →
      ∀ declaration, added (change declaration) = change (added declaration))
    (gone : ∀ entry ∈ entries, keep entry = false → ∀ draft : Draft,
      ∃ next, draft.add entry.1 entry.2 = .ok next ∧ next.revise change = draft.revise change) :
    (draft.revise change).addAll (entries.filter keep) =
      (draft.addAll entries).map (revise change) := by
  induction entries generalizing draft with
  | nil => rfl
  | cons entry rest ih =>
    have later (next : Draft) := @ih next
      (fun other among => kept other (List.mem_cons_of_mem entry among))
      (fun other among => gone other (List.mem_cons_of_mem entry among))
    cases stays : keep entry with
    | true =>
      rw [List.filter_cons_of_pos stays, addAll_cons, addAll_cons,
        add_revise pattern (kept entry List.mem_cons_self stays)]
      cases draft.add entry.1 entry.2 with
      | error failure => rfl
      | ok next => exact later next
    | false =>
      obtain ⟨next, added, same⟩ := gone entry List.mem_cons_self stays draft
      rw [List.filter_cons_of_neg (by simp [stays]), addAll_cons, added, ← same]
      exact later next

end Draft

/-- Leaving entries out changes a node as forgetting what they add does. -/
theorem ofEntries_filter {change : Declaration → Declaration} {keep : String × Value → Bool}
    {entries : List (String × Value)}
    (pattern : ∀ declaration, (change declaration).pattern = declaration.pattern)
    (kept : ∀ entry ∈ entries, keep entry = true → ∀ added, changeOf entry.1 entry.2 = .ok added →
      ∀ declaration, added (change declaration) = change (added declaration))
    (gone : ∀ entry ∈ entries, keep entry = false → ∀ draft : Draft,
      ∃ next, draft.add entry.1 entry.2 = .ok next ∧ next.revise change = draft.revise change)
    (empty : change {} = {}) :
    ofEntries (entries.filter keep) = (ofEntries entries).map change := by
  have all := @Draft.addAll_filter {} change keep entries pattern kept gone
  rw [Draft.revise, empty] at all
  rw [ofEntries_eq_map, ofEntries_eq_map, all]
  cases Draft.addAll {} entries <;> rfl

end Declaration

namespace Entries

def without (role : Role) (entries : List (String × Value)) : List (String × Value) :=
  entries.filter fun entry => Role.ofKey entry.1 ≠ role

/-- These settings replace those of the entries, and they come last. -/
def withSettings (settings : List Setting) (entries : List (String × Value)) :
    List (String × Value) :=
  without .setting entries ++ settings.map fun setting => (setting.name, setting.content)

/-- Leaving out one role keeps the entries of the others. -/
theorem ofRole_without {role other : Role} (different : other ≠ role)
    (entries : List (String × Value)) :
    ofRole role (without other entries) = ofRole role entries := by
  rw [ofRole, without, List.filter_filter]
  apply List.filter_congr
  intro entry _
  by_cases kept : Role.ofKey entry.1 = role <;> simp [kept, Ne.symm different]

theorem ofRole_without_self (role : Role) (entries : List (String × Value)) :
    ofRole role (without role entries) = [] := by
  rw [ofRole, without, List.filter_filter]
  apply List.filter_eq_nil_iff.mpr
  simp

/-- New settings keep the entries of the other roles. -/
theorem ofRole_withSettings {role : Role} (other : role ≠ .setting) {settings : List Setting}
    (roles : ∀ setting ∈ settings, Role.ofKey setting.name = .setting)
    (entries : List (String × Value)) :
    ofRole role (withSettings settings entries) = ofRole role entries := by
  have absent : ofRole role (settings.map fun setting => (setting.name, setting.content)) = [] := by
    apply List.filter_eq_nil_iff.mpr
    intro entry among
    obtain ⟨setting, member, rfl⟩ := List.mem_map.mp among
    simpa [roles setting member] using other.symm
  have split (before after : List (String × Value)) :
      ofRole role (before ++ after) = ofRole role before ++ ofRole role after :=
    List.filter_append before after
  rw [withSettings, split, absent, List.append_nil, ofRole_without other.symm]

end Entries

namespace Declaration

/-- Only the entries of one role notice which settings a node has, whether it shares them and which
children it has. -/
theorem changeOf_unnoticed {shares : Bool → Bool} {settings : List Setting → List Setting}
    {children : List Child → List Child} {key : String} {content : Value}
    {added : Declaration → Declaration} (read : changeOf key content = .ok added)
    (sharing : Role.ofKey key = .sharing → shares = id)
    (setting : Role.ofKey key = .setting → settings = id)
    (childRole : Role.ofKey key = .children → children = id) (declaration : Declaration) :
    added (declaration.adjust shares settings children) =
      (added declaration).adjust shares settings children := by
  unfold changeOf at read
  cases role : Role.ofKey key with
  | setting =>
    rw [role] at read
    cases read
    rw [setting role]
    rfl
  | sharing =>
    rw [role] at read
    obtain ⟨flag, _, rfl⟩ := Except.exists_of_map_eq_ok read
    rw [sharing role]
    rfl
  | children =>
    rw [role] at read
    obtain ⟨found, _, rfl⟩ := Except.exists_of_map_eq_ok read
    rw [childRole role]
    rfl
  | _ =>
    rw [role] at read
    obtain ⟨_, _, rfl⟩ := Except.exists_of_map_eq_ok read
    rfl

/-- A node that loses its flag for sharing reads as one that does not share. -/
theorem ofEntries_without_sharing {entries : List (String × Value)}
    (flags : ∀ entry ∈ entries, Role.ofKey entry.1 = .sharing →
      ∃ flag, readFlag entry.2 false = .ok flag) :
    ofEntries (Entries.without .sharing entries) =
      (ofEntries entries).map (adjust (fun _ => false) id id) := by
  apply ofEntries_filter
  case pattern => exact fun declaration => rfl
  case kept =>
    intro entry among stays added read
    have role : Role.ofKey entry.1 ≠ .sharing := by simpa using stays
    exact changeOf_unnoticed read (fun sharing => absurd sharing role) (fun _ => rfl) (fun _ => rfl)
  case gone =>
    intro entry among goes draft
    have role : Role.ofKey entry.1 = .sharing := by simpa using goes
    obtain ⟨flag, read⟩ := flags entry among role
    rw [Draft.add_sharing role, read]
    exact ⟨_, rfl, rfl⟩
  case empty => rfl

/-- New settings come behind those that are there. -/
theorem Draft.addAll_settings {draft : Draft} {settings : List Setting}
    (roles : ∀ setting ∈ settings, Role.ofKey setting.name = .setting) :
    draft.addAll (settings.map fun setting => (setting.name, setting.content)) =
      .ok (draft.revise (adjust id (· ++ settings) id)) := by
  induction settings generalizing draft with
  | nil => simp [revise, adjust]
  | cons setting rest ih =>
    have later (next : Draft) := @ih next
      (fun other among => roles other (List.mem_cons_of_mem setting among))
    rw [List.map_cons, addAll_cons, add_setting (roles setting List.mem_cons_self)]
    refine (later _).trans ?_
    simp [revise, adjust]

/-- A node with other settings reads as the node does, but for the settings. -/
theorem ofEntries_withSettings {settings : List Setting}
    (roles : ∀ setting ∈ settings, Role.ofKey setting.name = .setting)
    (entries : List (String × Value)) :
    ofEntries (Entries.withSettings settings entries) =
      (ofEntries entries).map (adjust id (fun _ => settings) id) := by
  have bare : (({} : Draft).revise (adjust id (fun _ => []) id)).addAll
      (Entries.without .setting entries) =
        (({} : Draft).addAll entries).map (Draft.revise (adjust id (fun _ => []) id)) := by
    apply Draft.addAll_filter
    case pattern => exact fun declaration => rfl
    case kept =>
      intro entry among stays added read
      have role : Role.ofKey entry.1 ≠ .setting := by simpa using stays
      exact changeOf_unnoticed read (fun _ => rfl) (fun setting => absurd setting role)
        (fun _ => rfl)
    case gone =>
      intro entry among goes draft
      have role : Role.ofKey entry.1 = .setting := by simpa using goes
      rw [Draft.add_setting role]
      exact ⟨_, rfl, rfl⟩
  rw [ofEntries_eq_map, ofEntries_eq_map, Entries.withSettings, Draft.addAll_append]
  change ((({} : Draft).revise (adjust id (fun _ => []) id)).addAll _ |>.bind _).map _ = _
  rw [bare]
  cases ({} : Draft).addAll entries with
  | error failure => rfl
  | ok last => exact congrArg (Except.map Draft.declaration) (Draft.addAll_settings roles)

/-- Nodes that differ in their settings only read alike, but for the settings. -/
theorem ofEntries_of_without_setting {entries others : List (String × Value)}
    (same : Entries.without .setting others = Entries.without .setting entries) :
    ofEntries others =
      (ofEntries entries).map (adjust id (fun _ => Setting.ofEntries others) id) := by
  have bare (list : List (String × Value)) :=
    @ofEntries_withSettings [] (fun setting among => absurd among List.not_mem_nil) list
  have alike : (ofEntries others).map (adjust id (fun _ => []) id) =
      (ofEntries entries).map (adjust id (fun _ => []) id) := by
    rw [← bare, ← bare, Entries.withSettings, Entries.withSettings, same]
  cases read : ofEntries entries with
  | error failure =>
    rw [read] at alike
    cases other : ofEntries others with
    | error otherFailure =>
      rw [other] at alike
      cases alike
      rfl
    | ok changed =>
      rw [other] at alike
      cases alike
  | ok declaration =>
    rw [read] at alike
    obtain ⟨changed, other, equal⟩ := Except.exists_of_map_eq_ok alike
    rw [other, ← settings_of_ofEntries other]
    have restored := congrArg (adjust id (fun _ => changed.settings) id) equal
    exact congrArg Except.ok restored

end Declaration
end HostTree
