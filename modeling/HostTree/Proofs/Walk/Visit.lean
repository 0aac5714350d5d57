/-
This file lists the visits of a walk over a document without a store and without an early end.
-/

import HostTree.Proofs.Setting.Evaluation
import HostTree.Proofs.Walk.Effect

namespace HostTree

/-- A visit is one iteration of a node with the settings that hold for it, or the attempt to read a
node that cannot be read. The place counts the roots of the document first and then, level by level,
the children. -/
inductive Visit where
  | unreadable (place : List Nat) (failure : Failure)
  | iteration (place : List Nat) (declaration : Declaration) (settings : List Setting)
      (parentName : String) (item : Option Value)

namespace Visit

def place : Visit → List Nat
  | unreadable place _ => place
  | iteration place .. => place

def name? : Visit → Option String
  | unreadable .. => none
  | iteration _ declaration _ parentName item =>
    (declaration.blockName parentName item).toOption

/-- A hidden iteration reports and fails like any other, but it emits nothing. -/
def effect : Visit → Effect
  | unreadable _ failure => { failure := some failure }
  | iteration _ declaration settings parentName item =>
    match declaration.blockName parentName item with
    | .error failure => { failure := some failure }
    | .ok name =>
      { warnings := Setting.warnings item settings
        emission :=
          if declaration.hidden ∨ (Setting.firstFailure? item settings).isSome then none
          else some ⟨name, declaration.kind, .ofList (Setting.lines item settings)⟩
        failure := Setting.firstFailure? item settings }

end Visit

namespace Outline

mutual

/-- A node comes before its children, and each iteration of its loop lists the children again. -/
def visits (place : List Nat) (parentName : String) (inherited : List Setting) :
    Outline → List Visit
  | invalid failure => [.unreadable place failure]
  | node declaration children =>
    let settings := Setting.overlay inherited declaration.settings
    declaration.items.flatMap fun item =>
      .iteration place declaration settings parentName item ::
        match declaration.blockName parentName item with
        | .error _ => []
        | .ok name =>
          visitsAll place 0 (declaration.nameForChildren name)
            (declaration.settingsForChildren name settings) children
termination_by structural outline => outline

def visitsAll (place : List Nat) (position : Nat) (parentName : String)
    (inherited : List Setting) : List Outline → List Visit
  | [] => []
  | first :: rest =>
    visits (place ++ [position]) parentName inherited first ++
      visitsAll place (position + 1) parentName inherited rest
termination_by structural outlines => outlines

end

/-- The visits of the children follow an iteration if it has a name. -/
def visitsBelow (place : List Nat) (declaration : Declaration) (settings : List Setting)
    (parentName : String) (children : List Outline) (item : Option Value) : List Visit :=
  match declaration.blockName parentName item with
  | .error _ => []
  | .ok name =>
    visitsAll place 0 (declaration.nameForChildren name)
      (declaration.settingsForChildren name settings) children

/-- One round of the loop of a node is an iteration with the visits below it. -/
def round (place : List Nat) (declaration : Declaration) (settings : List Setting)
    (parentName : String) (children : List Outline) (item : Option Value) : List Visit :=
  .iteration place declaration settings parentName item ::
    visitsBelow place declaration settings parentName children item

theorem visits_node (place : List Nat) (parentName : String) (inherited : List Setting)
    (declaration : Declaration) (children : List Outline) :
    visits place parentName inherited (node declaration children) =
      declaration.items.flatMap (round place declaration
        (Setting.overlay inherited declaration.settings) parentName children) := rfl

theorem mem_visitsAll_iff {place : List Nat} {start : Nat} {parentName : String}
    {inherited : List Setting} {outlines : List Outline} {visit : Visit} :
    visit ∈ visitsAll place start parentName inherited outlines ↔
      ∃ position outline, outlines[position]? = some outline ∧
        visit ∈ visits (place ++ [start + position]) parentName inherited outline := by
  induction outlines generalizing start with
  | nil => simp [visitsAll]
  | cons first rest ih =>
    rw [visitsAll, List.mem_append, ih]
    constructor
    · rintro (now | ⟨position, outline, found, later⟩)
      · exact ⟨0, first, rfl, now⟩
      · refine ⟨position + 1, outline, found, ?_⟩
        rwa [← Nat.add_assoc, Nat.add_right_comm]
    · rintro ⟨position, outline, found, among⟩
      cases position with
      | zero =>
        cases found
        exact .inl among
      | succ position =>
        refine .inr ⟨position, outline, found, ?_⟩
        rwa [Nat.add_right_comm, Nat.add_assoc]

mutual

/-- All visits of a node take place at the node or below it. -/
theorem place_of_mem_visits {place : List Nat} {parentName : String} {inherited : List Setting}
    {outline : Outline} {visit : Visit}
    (among : visit ∈ visits place parentName inherited outline) : place <+: visit.place := by
  cases outline with
  | invalid failure =>
    cases List.mem_singleton.mp among
    exact List.prefix_rfl
  | node declaration children =>
    obtain ⟨item, _, during⟩ := List.mem_flatMap.mp (visits_node .. ▸ among)
    rcases List.mem_cons.mp during with rfl | below
    · exact List.prefix_rfl
    · unfold visitsBelow at below
      split at below
      · cases below
      · obtain ⟨position, _, deeper⟩ := place_of_mem_visitsAll below
        exact (List.prefix_append place [position]).trans deeper
termination_by structural outline

theorem place_of_mem_visitsAll {place : List Nat} {start : Nat} {parentName : String}
    {inherited : List Setting} {outlines : List Outline} {visit : Visit}
    (among : visit ∈ visitsAll place start parentName inherited outlines) :
    ∃ position, start ≤ position ∧ place ++ [position] <+: visit.place := by
  cases outlines with
  | nil => cases among
  | cons first rest =>
    rcases List.mem_append.mp among with now | later
    · exact ⟨start, Nat.le_refl start, place_of_mem_visits now⟩
    · obtain ⟨position, after, below⟩ := place_of_mem_visitsAll later
      exact ⟨position, Nat.le_of_succ_le after, below⟩
termination_by structural outlines

end

end Outline

namespace Visit

def ofDocument (document : Value) : List Visit :=
  Outline.visitsAll [] 0 "" [] (Outline.ofDocument document)

/-- These visits take place: those up to the first failure, with the one that fails. -/
def performed (visits : List Visit) : List Visit :=
  upTo (fun visit => visit.effect.fails) visits

end Visit
end HostTree
