/-
This file follows the walk from the roots of a document down to one iteration of a node.
-/

import HostTree.Proofs.Walk.Visit

namespace HostTree

/-- This is one iteration of a node at its place, with the settings that hold for it. The outlines
of its children are those that the walk goes on with. -/
structure Iteration where
  place : List Nat
  declaration : Declaration
  children : List Outline
  settings : List Setting
  parentName : String
  item : Option Value

namespace Iteration

def visit (iteration : Iteration) : Visit :=
  .iteration iteration.place iteration.declaration iteration.settings iteration.parentName
    iteration.item

def name (iteration : Iteration) : Except Failure String :=
  iteration.declaration.blockName iteration.parentName iteration.item

/-- These are the visits of the iteration and of all nodes below it. -/
def round (iteration : Iteration) : List Visit :=
  Outline.round iteration.place iteration.declaration iteration.settings iteration.parentName
    iteration.children iteration.item

/-- The iteration belongs to one of some nodes that stand below a place, with the name and the
settings that the parent hands down. -/
structure IsOf (place : List Nat) (parentName : String) (inherited : List Setting)
    (outlines : List Outline) (iteration : Iteration) : Prop where
  node : ∃ position, iteration.place = place ++ [position] ∧
    outlines[position]? = some (.node iteration.declaration iteration.children)
  settings : iteration.settings = Setting.overlay inherited iteration.declaration.settings
  parentName : iteration.parentName = parentName
  turn : iteration.item ∈ iteration.declaration.items

/-- The second iteration is one of a child of the first. -/
def Leads (parent child : Iteration) : Prop :=
  ∃ name, parent.name = .ok name ∧
    child.IsOf parent.place (parent.declaration.nameForChildren name)
      (parent.declaration.settingsForChildren name parent.settings) parent.children

theorem round_eq_cons {iteration : Iteration} {name : String} (named : iteration.name = .ok name) :
    iteration.round = iteration.visit :: Outline.visitsAll iteration.place 0
      (iteration.declaration.nameForChildren name)
      (iteration.declaration.settingsForChildren name iteration.settings) iteration.children := by
  rw [round, Outline.round, Outline.visitsBelow]
  rw [Iteration.name] at named
  rw [named]
  rfl

theorem round_subset_of_isOf {place : List Nat} {parentName : String} {inherited : List Setting}
    {outlines : List Outline} {iteration : Iteration}
    (isOf : iteration.IsOf place parentName inherited outlines) :
    iteration.round ⊆ Outline.visitsAll place 0 parentName inherited outlines := by
  obtain ⟨⟨position, here, found⟩, settings, parent, turn⟩ := isOf
  intro visit among
  refine Outline.mem_visitsAll_iff.mpr ⟨position, _, found, ?_⟩
  rw [Nat.zero_add, ← here, ← parent, Outline.visits_node, ← settings]
  exact List.mem_flatMap.mpr ⟨iteration.item, turn, among⟩

end Iteration

/-- A chain leads down from a root of the document. Each iteration of it is one of a child of the
iteration before. The last one is kept apart from those above it. -/
inductive Chain (document : Value) : List Iteration → Iteration → Prop where
  | root {first : Iteration} (isOf : first.IsOf [] "" [] (Outline.ofDocument document)) :
    Chain document [] first
  | child {above : List Iteration} {parent child : Iteration} (chain : Chain document above parent)
    (leads : parent.Leads child) : Chain document (above ++ [parent]) child

namespace Chain

variable {document : Value} {above : List Iteration} {last : Iteration}

/-- What follows from an iteration is visited if the iteration is. -/
theorem round_subset (chain : Chain document above last) :
    last.round ⊆ Visit.ofDocument document := by
  induction chain with
  | root isOf => exact Iteration.round_subset_of_isOf isOf
  | @child above parent child chain leads ih =>
    obtain ⟨name, named, isOf⟩ := leads
    rw [Iteration.round_eq_cons named] at ih
    intro visit among
    exact ih (List.mem_cons_of_mem _ (Iteration.round_subset_of_isOf isOf among))

theorem visit_mem (chain : Chain document above last) : last.visit ∈ Visit.ofDocument document :=
  chain.round_subset List.mem_cons_self

/-- In a property of all iterations of a document, one may step from a parent to its children. -/
theorem invariant {holds : Iteration → Prop} (chain : Chain document above last)
    (root : ∀ first : Iteration, first.IsOf [] "" [] (Outline.ofDocument document) → holds first)
    (step : ∀ parent child : Iteration, holds parent → parent.Leads child → holds child) :
    holds last := by
  induction chain with
  | root isOf => exact root _ isOf
  | child _ leads ih => exact step _ _ ih leads

end Chain

/-- The visit is the end of a chain, unless its node cannot be read. -/
def Visit.EndsChain (document : Value) : Visit → Prop
  | unreadable .. => True
  | iteration place declaration settings parentName item =>
    ∃ above children,
      Chain document above ⟨place, declaration, children, settings, parentName, item⟩

namespace Outline

variable {document : Value}

mutual

/-- If chains reach the iterations of a node, then they reach those of the nodes below it. -/
theorem endsChain_of_mem_visits {place : List Nat} {parentName : String} {inherited : List Setting}
    {outline : Outline}
    (reached : ∀ declaration children, outline = node declaration children →
      ∀ item ∈ declaration.items, ∃ above, Chain document above
        ⟨place, declaration, children, Setting.overlay inherited declaration.settings, parentName,
          item⟩) :
    ∀ visit ∈ visits place parentName inherited outline, visit.EndsChain document := by
  intro visit among
  cases outline with
  | invalid failure =>
    cases List.mem_singleton.mp among
    trivial
  | node declaration children =>
    obtain ⟨item, turn, during⟩ := List.mem_flatMap.mp (visits_node .. ▸ among)
    obtain ⟨above, chain⟩ := reached declaration children rfl item turn
    rcases List.mem_cons.mp during with rfl | below
    · exact ⟨above, children, chain⟩
    · cases named : declaration.blockName parentName item with
      | error failure =>
        rw [visitsBelow, named] at below
        cases below
      | ok name =>
        rw [visitsBelow, named] at below
        refine endsChain_of_mem_visitsAll ?_ visit below
        intro position childDeclaration grandchildren found childItem childTurn
        refine ⟨_, chain.child ⟨name, named, ?_⟩⟩
        exact ⟨⟨position, by rw [Nat.zero_add], found⟩, rfl, rfl, childTurn⟩
termination_by structural outline

theorem endsChain_of_mem_visitsAll {place : List Nat} {start : Nat} {parentName : String}
    {inherited : List Setting} {outlines : List Outline}
    (reached : ∀ position declaration children,
      outlines[position]? = some (node declaration children) →
      ∀ item ∈ declaration.items, ∃ above, Chain document above
        ⟨place ++ [start + position], declaration, children,
          Setting.overlay inherited declaration.settings, parentName, item⟩) :
    ∀ visit ∈ visitsAll place start parentName inherited outlines, visit.EndsChain document := by
  intro visit among
  cases outlines with
  | nil => cases among
  | cons first rest =>
    rcases List.mem_append.mp among with now | later
    · refine endsChain_of_mem_visits ?_ visit now
      rintro declaration children rfl
      exact reached 0 declaration children rfl
    · refine endsChain_of_mem_visitsAll ?_ visit later
      intro position declaration children found
      rw [Nat.add_right_comm, Nat.add_assoc]
      exact reached (position + 1) declaration children found
termination_by structural outlines

end

end Outline

/-- The chains of a document reach all its visits. -/
theorem Visit.endsChain {document : Value} {visit : Visit} (among : visit ∈ ofDocument document) :
    visit.EndsChain document := by
  refine Outline.endsChain_of_mem_visitsAll ?_ visit among
  intro position declaration children found item turn
  refine ⟨[], .root ⟨⟨position, ?_, found⟩, rfl, rfl, turn⟩⟩
  rw [Nat.zero_add]

end HostTree
