/-
This file carries a change of one node over to the whole walk.
-/

import HostTree.Proofs.Outline.Place
import HostTree.Proofs.Walk.Visit

namespace HostTree

namespace Visit

/-- A relation of this kind may be shown part by part. Away from the target it ignores what has no
effect. -/
structure LocalCongruence (target : List Nat) (related : List Visit → List Visit → Prop) :
    Prop where
  same {first second : List Visit} : first.map effect = second.map effect →
    (∀ visit ∈ first, visit.place ≠ target) → related first second
  append {first second firstRest secondRest : List Visit} : related first second →
    related firstRest secondRest → related (first ++ firstRest) (second ++ secondRest)

namespace LocalCongruence

open Outline

variable {related : List Visit → List Visit → Prop} {target place : List Nat} {parentName : String}
  {inherited : List Setting}

theorem cons (congruence : LocalCongruence target related) {visit other : Visit}
    {first second : List Visit} (same : visit.effect = other.effect) (away : visit.place ≠ target)
    (rest : related first second) : related (visit :: first) (other :: second) := by
  have head : related [visit] [other] := congruence.same (by simp [same]) (by simp [away])
  exact congruence.append head rest

theorem nil (congruence : LocalCongruence target related) : related [] [] :=
  congruence.same rfl (by simp)

theorem flatMap (congruence : LocalCongruence target related) {Content : Type}
    {contents : List Content} {first second : Content → List Visit}
    (each : ∀ content ∈ contents, related (first content) (second content)) :
    related (contents.flatMap first) (contents.flatMap second) := by
  induction contents with
  | nil => exact congruence.nil
  | cons content rest ih =>
    rw [List.flatMap_cons, List.flatMap_cons]
    apply congruence.append
    · exact each content List.mem_cons_self
    · exact ih fun other among => each other (List.mem_cons_of_mem content among)

/-- Two rounds are related when their nodes differ in the children only, and the visits of the
children are related. -/
theorem round (congruence : LocalCongruence target related) (away : place ≠ target)
    {declaration : Declaration} {ownChildren : List Child → List Child} {settings : List Setting}
    {children others : List Outline} {item : Option Value}
    (below : ∀ name, related
      (visitsAll place 0 (declaration.nameForChildren name)
        (declaration.settingsForChildren name settings) children)
      (visitsAll place 0 (declaration.nameForChildren name)
        (declaration.settingsForChildren name settings) others)) :
    related (Outline.round place declaration settings parentName children item)
      (Outline.round place (declaration.adjust id id ownChildren) settings parentName others
        item) := by
  apply congruence.cons
  case same => rfl
  case away => exact away
  case rest =>
    rw [visitsBelow, visitsBelow, Declaration.blockName_adjust]
    cases declaration.blockName parentName item with
    | error failure => exact congruence.nil
    | ok name => exact below name

/-- The visits of some nodes are related to those after a change of one node, if those of this node
are. The target is this node or stands below it. -/
theorem modify (congruence : LocalCongruence target related) {change : Value → Value}
    {nodes : List Value} {position start : Nat} {node : Value}
    (found : nodes[position]? = some node) (within : place ++ [start + position] <+: target)
    (each : related (visits (place ++ [start + position]) parentName inherited (ofValue node))
      (visits (place ++ [start + position]) parentName inherited (ofValue (change node)))) :
    related (visitsAll place start parentName inherited (nodes.map ofValue))
      (visitsAll place start parentName inherited
        ((nodes.modify position change).map ofValue)) := by
  -- Two nodes with the same parent have no place in common.
  have apart {sibling : Nat} {other : List Nat} (different : sibling ≠ start + position)
      (below : place ++ [sibling] <+: other) : other ≠ target := by
    rintro rfl
    obtain ⟨_, rfl⟩ := below
    obtain ⟨_, same⟩ := within
    simp [different.symm] at same
  induction nodes generalizing position start with
  | nil => cases found
  | cons first rest ih =>
    cases position with
    | zero =>
      cases found
      rw [List.modify_zero_cons, List.map_cons, List.map_cons, visitsAll, visitsAll]
      apply congruence.append each
      apply congruence.same rfl
      intro visit among
      obtain ⟨sibling, after, below⟩ := place_of_mem_visitsAll among
      exact apart (by omega) below
    | succ position =>
      rw [List.modify_succ_cons, List.map_cons, List.map_cons, visitsAll, visitsAll]
      have later : start + (position + 1) = start + 1 + position := by omega
      apply congruence.append
      · apply congruence.same rfl
        intro visit among
        exact apart (by omega) (place_of_mem_visits among)
      · rw [later] at within each apart
        exact ih found within each apart

/-- A change at the end of the path keeps the visits from an ancestor on related, if it keeps those
of the node related with all settings that the node may inherit. -/
theorem below {path : List Nat} (congruence : LocalCongruence (place ++ path) related)
    {change : List (String × Value) → List (String × Value)} {entries : List (String × Value)}
    {value : Value} (found : value.descend? path = some (.mapping entries))
    {inheritable : List Setting → Prop} (start : path = [] → inheritable inherited)
    (nothing : inheritable [])
    (sharing : ∀ parent, path ≠ [] → value.descend? path.dropLast = some (.mapping parent) →
      Entries.Shares parent → ∀ settings, inheritable settings)
    (node : ∀ parentName settings, inheritable settings →
      related (visits (place ++ path) parentName settings (ofValue (.mapping entries)))
        (visits (place ++ path) parentName settings (ofValue (.mapping (change entries))))) :
    related (visits place parentName inherited (ofValue value))
      (visits place parentName inherited (ofValue (value.changeBelow change path))) := by
  induction path generalizing value place parentName inherited with
  | nil =>
    cases found
    rw [List.append_nil] at node
    exact node parentName inherited (start rfl)
  | cons position rest ih =>
    have away : place ≠ place ++ position :: rest := by simp
    cases value with
    | mapping parent =>
      obtain ⟨child, atPosition, reached⟩ := Option.bind_eq_some_iff.mp found
      have reads := Declaration.ofEntries_changeBelow change position rest parent
      rw [Value.changeBelow]
      generalize read : Declaration.ofEntries parent = result at reads
      generalize other : Declaration.ofEntries (Entries.mapChildItems _ parent) = changed at reads
      cases reads with
      | failure failure =>
        rw [ofValue_of_failure read, ofValue_of_failure other]
        apply congruence.same rfl
        intro visit among
        rw [List.mem_singleton.mp among]
        exact away
      | @success declaration changed relation =>
        obtain ⟨ownChildren, rfl⟩ := relation
        have children := Entries.childItems_modify position (Value.changeBelow change rest) parent
        rw [ofValue_of_success read, ofValue_of_success other, children, visits_node, visits_node]
        apply congruence.flatMap
        intro item _
        apply congruence.round away
        intro name
        have step : place ++ position :: rest = place ++ [position] ++ rest := by simp
        rw [step] at congruence node
        apply congruence.modify atPosition
        case within =>
          rw [Nat.zero_add]
          exact List.prefix_append _ rest
        case each =>
          rw [Nat.zero_add]
          apply ih congruence reached
          case start =>
            rintro rfl
            rw [Declaration.settingsForChildren]
            split
            case isTrue both =>
              exact sharing parent (by simp) rfl ((Declaration.sharesSettings_iff read).mp both.2) _
            case isFalse => exact nothing
          case sharing =>
            intro ancestor longer above
            apply sharing ancestor (by simp)
            rw [List.dropLast_cons_of_ne_nil longer, Value.descend?, atPosition]
            exact above
          case node => exact node
    | _ => cases found

/-- A change at a place keeps the visits of the document related, if it keeps those of the node at
this place related. The node inherits nothing unless its parent shares its settings. -/
theorem changeAt (congruence : LocalCongruence place related)
    {change : List (String × Value) → List (String × Value)} {entries : List (String × Value)}
    {document : Value} (found : document.nodeAt? place = some (.mapping entries))
    (node : ∀ parentName settings,
      (settings = [] ∨ ∃ parent, document.nodeAt? place.dropLast = some (.mapping parent) ∧
        Entries.Shares parent) →
      related (visits place parentName settings (ofValue (.mapping entries)))
        (visits place parentName settings (ofValue (.mapping (change entries))))) :
    related (ofDocument document) (ofDocument (document.changeAt change place)) := by
  cases place with
  | nil => cases found
  | cons position path =>
    obtain ⟨root, atPosition, reached⟩ := Option.bind_eq_some_iff.mp found
    have changedAt : (document.changeAt change (position :: path)).roots[position]? =
        some (root.changeBelow change path) := by
      rw [Value.roots_changeAt atPosition, List.getElem?_modify_eq, atPosition]
      rfl
    rw [ofDocument, ofDocument, ofDocument_eq_map (List.mem_of_getElem? atPosition),
      ofDocument_eq_map (List.mem_of_getElem? changedAt), Value.roots_changeAt atPosition]
    apply congruence.modify atPosition
    case within =>
      rw [Nat.zero_add]
      exact List.prefix_append [position] path
    case each =>
      rw [Nat.zero_add, List.nil_append]
      refine LocalCongruence.below congruence reached (fun _ => .inl rfl) (.inl rfl) ?sharing node
      case sharing =>
        intro parent longer above shares settings
        refine .inr ⟨parent, ?_, shares⟩
        rw [List.dropLast_cons_of_ne_nil longer, Value.nodeAt?, atPosition]
        exact above

end LocalCongruence

/-- A relation of this kind may be shown part by part, and it ignores what has no effect. -/
structure Congruence (related : List Visit → List Visit → Prop) : Prop where
  same {first second : List Visit} : first.map effect = second.map effect → related first second
  append {first second firstRest secondRest : List Visit} : related first second →
    related firstRest secondRest → related (first ++ firstRest) (second ++ secondRest)

namespace Congruence

open Outline

variable {related : List Visit → List Visit → Prop} {place : List Nat}

/-- Any place may be the target. -/
theorem localCongruence (congruence : Congruence related) (target : List Nat) :
    LocalCongruence target related :=
  ⟨fun same _ => congruence.same same, congruence.append⟩

theorem flatMap (congruence : Congruence related) {Content : Type} {contents : List Content}
    {first second : Content → List Visit}
    (each : ∀ content ∈ contents, related (first content) (second content)) :
    related (contents.flatMap first) (contents.flatMap second) :=
  (congruence.localCongruence []).flatMap each

/-- A change at a place keeps the visits of the document related, if it keeps those of the node at
this place related. The node inherits nothing unless its parent shares its settings. -/
theorem changeAt (congruence : Congruence related)
    {change : List (String × Value) → List (String × Value)} {entries : List (String × Value)}
    {document : Value} (found : document.nodeAt? place = some (.mapping entries))
    (node : ∀ parentName settings,
      (settings = [] ∨ ∃ parent, document.nodeAt? place.dropLast = some (.mapping parent) ∧
        Entries.Shares parent) →
      related (visits place parentName settings (ofValue (.mapping entries)))
        (visits place parentName settings (ofValue (.mapping (change entries))))) :
    related (ofDocument document) (ofDocument (document.changeAt change place)) :=
  (congruence.localCongruence place).changeAt found node

end Congruence
end Visit
end HostTree
