/-
This file shows that the name of a node is made of the patterns on the chain above it.
-/

import HostTree.Proofs.Outline.Children
import HostTree.Proofs.Template.Stem
import HostTree.Proofs.Walk.Chain
import HostTree.Proofs.Walk.Outcome
import Mathlib.Data.List.DropRight
import Mathlib.Data.List.Forall2

namespace HostTree

namespace Iteration

/-- The names of the children begin with the name of the iteration. -/
def passesName (iteration : Iteration) : Bool :=
  iteration.declaration.namesChildren ∧ iteration.name ≠ .ok wildcard

/-- Nothing stands before the wildcard of a host. -/
def isWildcard (iteration : Iteration) : Bool :=
  iteration.declaration.pattern = none ∨
    iteration.declaration.pattern = some wildcard ∧ iteration.declaration.kind = .host

def ownText (iteration : Iteration) : Except Failure String :=
  match iteration.declaration.pattern with
  | none => .ok wildcard
  | some pattern => Template.resolve pattern iteration.item

def HasPlainName (iteration : Iteration) : Prop :=
  ∀ name, iteration.name = .ok name → Template.Plain name.toList

/-- These iterations bring the parts of the name: the last one, and those above it from behind the
last one that does not pass its name on. -/
def nameParts (above : List Iteration) (last : Iteration) : List Iteration :=
  above.rtakeWhile passesName ++ [last]

/-- Each part is resolved with the item of its own iteration. -/
def chainName (above : List Iteration) (last : Iteration) : Except Failure String :=
  if last.isWildcard then .ok wildcard
  else ((nameParts above last).mapM ownText).map String.join

variable {iteration : Iteration}

theorem name_of_wildcard (alone : iteration.isWildcard) : iteration.name = .ok wildcard := by
  rw [name, Declaration.blockName]
  rcases of_decide_eq_true alone with none | ⟨pattern, kind⟩
  · rw [none]
  · rw [pattern]
    exact if_pos ⟨rfl, kind⟩

theorem name_of_pattern (ordinary : ¬ iteration.isWildcard) :
    ∃ pattern, iteration.declaration.pattern = some pattern ∧
      iteration.name = Template.resolve (iteration.parentName ++ pattern) iteration.item := by
  cases shape : iteration.declaration.pattern with
  | none => exact absurd (decide_eq_true (.inl shape)) ordinary
  | some pattern =>
    refine ⟨pattern, rfl, ?_⟩
    rw [name, Declaration.blockName, shape]
    refine if_neg ?_
    rintro ⟨rfl, kind⟩
    exact ordinary (decide_eq_true (.inr ⟨shape, kind⟩))

/-- A plain stem from the parent stays as it is, so that the item fills the own pattern only. -/
theorem name_eq_append (ordinary : ¬ iteration.isWildcard)
    (plain : Template.Plain iteration.parentName.toList) {name : String}
    (named : iteration.name = .ok name) :
    ∃ text, iteration.ownText = .ok text ∧ name = iteration.parentName ++ text := by
  obtain ⟨pattern, shape, resolved⟩ := name_of_pattern ordinary
  rw [resolved, Template.resolve_append_eq_ok_iff plain] at named
  obtain ⟨text, own, joined⟩ := named
  refine ⟨text, ?_, joined⟩
  rw [ownText, shape]
  exact own

theorem nameForChildren_eq {name : String} (named : iteration.name = .ok name) :
    iteration.declaration.nameForChildren name = if iteration.passesName then name else "" := by
  simp only [Declaration.nameForChildren, passesName, named, decide_eq_true_eq, ne_eq,
    Except.ok.injEq, and_comm]

/-- One more part stands at the end of the name. -/
theorem mapM_ownText_append {parts : List Iteration} {texts : List String}
    (before : parts.mapM ownText = .ok texts) {text : String}
    (own : iteration.ownText = .ok text) :
    (parts ++ [iteration]).mapM ownText = .ok (texts ++ [text]) := by
  rw [List.mapM_append, before, List.mapM_cons, own]
  rfl

end Iteration

namespace Chain

open Iteration

variable {document : Value} {above : List Iteration} {last : Iteration}

theorem plain_parentName (chain : Chain document above last)
    (plain : ∀ ancestor ∈ above, ancestor.HasPlainName) :
    Template.Plain last.parentName.toList := by
  have empty : Template.Plain "".toList := by
    rintro character ⟨⟩
  cases chain with
  | root isOf =>
    rw [isOf.parentName]
    exact empty
  | @child above parent child chain leads =>
    obtain ⟨name, named, isOf⟩ := leads
    rw [isOf.parentName, Declaration.nameForChildren]
    split
    · exact plain parent (by simp) name named
    · exact empty

/-- The step from a parent to its child: the name that the child begins with is put together from
the parts above. -/
theorem parentName_eq_join (chain : Chain document above last)
    (plain : ∀ ancestor ∈ above, ancestor.HasPlainName) :
    ∃ texts, (above.rtakeWhile passesName).mapM ownText = .ok texts ∧
      last.parentName = String.join texts := by
  induction chain with
  | root isOf => exact ⟨[], rfl, isOf.parentName⟩
  | @child above parent child chain leads ih =>
    obtain ⟨name, named, isOf⟩ := leads
    have plainAbove : ∀ ancestor ∈ above, ancestor.HasPlainName :=
      fun ancestor among => plain ancestor (List.mem_append_left _ among)
    rw [isOf.parentName, nameForChildren_eq named, List.rtakeWhile_concat]
    by_cases passes : parent.passesName
    · have ordinary : ¬ parent.isWildcard := by
        intro alone
        simp [passesName, name_of_wildcard alone] at passes
      obtain ⟨texts, parts, joined⟩ := ih plainAbove
      obtain ⟨text, own, rfl⟩ := name_eq_append ordinary (chain.plain_parentName plainAbove) named
      rw [if_pos passes, if_pos passes, joined]
      exact ⟨texts ++ [text], mapM_ownText_append parts own, by simp⟩
    · rw [if_neg passes, if_neg passes]
      exact ⟨[], rfl, rfl⟩

/-- A name below plain names is that of the chain. -/
theorem chainName_eq (chain : Chain document above last)
    (plain : ∀ ancestor ∈ above, ancestor.HasPlainName) {name : String}
    (named : last.name = .ok name) : chainName above last = .ok name := by
  rw [chainName]
  split
  case isTrue alone => rw [← named, name_of_wildcard alone]
  case isFalse ordinary =>
    obtain ⟨texts, parts, joined⟩ := chain.parentName_eq_join plain
    obtain ⟨text, own, rfl⟩ := name_eq_append ordinary (chain.plain_parentName plain) named
    rw [nameParts, mapM_ownText_append parts own, joined]
    simp [Except.map]

/-- In a document that compiles, each iteration has a name, and a shown one has a block. -/
theorem name_of_compile (chain : Chain document above last) {store : Store}
    (compiled : (compile document).1 = .ok store) :
    ∃ name, last.name = .ok name ∧ (last.declaration.hidden = false → name ∈ store.names) := by
  have passed := Visit.failure_of_compile compiled chain.visit_mem
  cases named : last.name with
  | error failure =>
    rw [Iteration.name] at named
    rw [Iteration.visit, Visit.effect, named] at passed
    cases passed
  | ok name =>
    refine ⟨name, rfl, ?_⟩
    intro shown
    have emitted := Visit.emission_of_shown named shown passed
    apply (Store.mem_names_iff compiled).mpr
    exact ⟨_, List.mem_filterMap.mpr ⟨last.visit, chain.visit_mem, emitted⟩, rfl⟩

end Chain

namespace Iteration

variable {above others : List Iteration} {last other : Iteration}

/-- Two chains agree on the parts of a name. -/
structure SameParts (above : List Iteration) (last : Iteration) (others : List Iteration)
    (other : Iteration) : Prop where
  kind : last.declaration.kind = other.declaration.kind
  pattern : last.declaration.pattern = other.declaration.pattern
  parts : List.Forall₂ (fun first second => first.declaration.pattern = second.declaration.pattern ∧
    first.item = second.item) (nameParts above last) (nameParts others other)

/-- The name reads the kind of the node, and the patterns and items of the parts. -/
theorem chainName_congr (same : SameParts above last others other) :
    chainName above last = chainName others other := by
  have sameTexts : (nameParts above last).mapM ownText = (nameParts others other).mapM ownText := by
    have parts := same.parts
    generalize nameParts above last = first at parts
    generalize nameParts others other = second at parts
    induction parts with
    | nil => rfl
    | cons here _ ih => rw [List.mapM_cons, List.mapM_cons, ih, ownText, ownText, here.1, here.2]
  have sameWildcard : last.isWildcard = other.isWildcard := by
    rw [isWildcard, isWildcard, same.kind, same.pattern]
  rw [chainName, chainName, sameWildcard, sameTexts]

end Iteration

/-- Names follow the chain. In a document that compiles, below names without braces, the name of an
iteration is the wildcard or is put together from its own pattern and those above it, from behind
the last ancestor that does not pass its name on, each with the item of its own iteration. So two
chains with the same parts have the same name, whatever else the documents hold. -/
theorem name_eq_chainName {document : Value} {store : Store}
    (compiled : (compile document).1 = .ok store) {above : List Iteration} {last : Iteration}
    (chain : Chain document above last) (plain : ∀ ancestor ∈ above, ancestor.HasPlainName) :
    (∃ name, last.name = .ok name ∧ Iteration.chainName above last = .ok name ∧
      (last.declaration.hidden = false → name ∈ store.names)) ∧
    ∀ {otherDocument : Value} {otherStore : Store}, (compile otherDocument).1 = .ok otherStore →
      ∀ {others : List Iteration} {other : Iteration}, Chain otherDocument others other →
        (∀ ancestor ∈ others, ancestor.HasPlainName) →
        Iteration.SameParts above last others other → other.name = last.name := by
  obtain ⟨name, named, block⟩ := chain.name_of_compile compiled
  have joined := chain.chainName_eq plain named
  refine ⟨⟨name, named, joined, block⟩, ?_⟩
  intro otherDocument otherStore otherCompiled others other otherChain otherPlain same
  obtain ⟨otherName, otherNamed, _⟩ := otherChain.name_of_compile otherCompiled
  have otherJoined := otherChain.chainName_eq otherPlain otherNamed
  rw [← Iteration.chainName_congr same, joined] at otherJoined
  rw [named, otherNamed, Except.ok.inj otherJoined]

/-- The root does not pass its name on, and the loop below it fills the name of the last node. -/
theorem name_eq_chainName_loop :
    ∃ store, (compile (.mapping [("Host", .string "a"), ("prefix", .boolean false),
      ("subhosts", .sequence [.mapping [("Host", .string "b{item}"),
        ("with_items", .sequence [.integer 1]), ("subhosts", .sequence [.string "c"])]])])).1 =
          .ok store ∧ "b1c" ∈ store.names := by
  let inner : List (String × Value) := [("Host", .string "b{item}"),
    ("with_items", .sequence [.integer 1]), ("subhosts", .sequence [.string "c"])]
  let outer : List (String × Value) := [("Host", .string "a"), ("prefix", .boolean false),
    ("subhosts", .sequence [.mapping inner])]
  let child : Declaration :=
    { pattern := some "b{item}", loop := some (.items [.integer 1]), children := [.name "c"] }
  let root : Declaration :=
    { pattern := some "a", namesChildren := false, children := [.node inner] }
  have readInner : Declaration.ofEntries inner = .ok child := by
    rw [Declaration.ofEntries_eq_map]
    simp only [inner, Declaration.Draft.addAll_cons, Declaration.Draft.add_pattern Role.ofKey_host,
      Declaration.Draft.add_looping Role.ofKey_loop,
      Declaration.Draft.add_children Role.ofKey_subhosts]
    rfl
  have readOuter : Declaration.ofEntries outer = .ok root := by
    rw [Declaration.ofEntries_eq_map]
    simp only [outer, Declaration.Draft.addAll_cons, Declaration.Draft.add_pattern Role.ofKey_host,
      Declaration.Draft.add_naming Role.ofKey_prefix,
      Declaration.Draft.add_children Role.ofKey_subhosts]
    rfl
  have innerChildren : Entries.childItems inner = [.string "c"] := by
    simp [Entries.childItems, inner, Role.ofKey_host, Role.ofKey_loop, Role.ofKey_subhosts,
      Value.items]
  have outerChildren : Entries.childItems outer = [.mapping inner] := by
    simp [Entries.childItems, outer, Role.ofKey_host, Role.ofKey_prefix, Role.ofKey_subhosts,
      Value.items]
  have outlines : Outline.ofDocument (.mapping outer) =
      [.node root [.node child [.node (.named "c") []]]] := by
    rw [Outline.ofDocument, Outline.ofValue_of_success readOuter, outerChildren, List.map_singleton,
      Outline.ofValue_of_success readInner, innerChildren]
    rfl
  have passed : (Visit.ofDocument (.mapping outer)).findSome?
      (fun visit => visit.effect.failure) = none := by
    rw [Visit.ofDocument, outlines]
    decide +kernel
  have compiled := congrArg Prod.fst (compile_of_success passed)
  let first : Iteration := ⟨[0], root, [.node child [.node (.named "c") []]], [], "", none⟩
  let second : Iteration :=
    ⟨[0, 0], child, [.node (.named "c") []], [], "", some (.integer 1)⟩
  let third : Iteration := ⟨[0, 0, 0], .named "c", [], [], "b1", none⟩
  have firstName : first.name = .ok "a" := by decide +kernel
  have secondName : second.name = .ok "b1" := by decide +kernel
  have thirdName : third.name = .ok "b1c" := by decide +kernel
  have atFirst : Chain (.mapping outer) [] first :=
    .root ⟨⟨0, rfl, by rw [outlines]; rfl⟩, rfl, rfl, List.mem_singleton.mpr rfl⟩
  have atSecond : Chain (.mapping outer) [first] second :=
    atFirst.child ⟨"a", firstName, ⟨⟨0, rfl, rfl⟩, rfl, rfl, List.mem_singleton.mpr rfl⟩⟩
  have atThird : Chain (.mapping outer) [first, second] third :=
    atSecond.child ⟨"b1", secondName, ⟨⟨0, rfl, rfl⟩, rfl, rfl, List.mem_singleton.mpr rfl⟩⟩
  have plain : ∀ ancestor ∈ [first, second], ancestor.HasPlainName := by
    intro ancestor among name named
    rcases List.mem_pair.mp among with rfl | rfl
    · rw [firstName] at named
      cases named
      simp [Template.Plain]
    · rw [secondName] at named
      cases named
      simp [Template.Plain]
  obtain ⟨⟨name, named, _, block⟩, _⟩ := name_eq_chainName compiled atThird plain
  rw [thirdName] at named
  cases named
  exact ⟨_, compiled, block rfl⟩

end HostTree
