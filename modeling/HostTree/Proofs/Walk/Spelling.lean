/-
This file shows that the spelling of option names does not matter for the configuration.
-/

import HostTree.Proofs.Outline.Place
import HostTree.Proofs.Setting.Spelling
import HostTree.Proofs.Walk.Run
import Mathlib.Logic.Relation

namespace HostTree

theorem Compilation.settings_synonymous {first second : List Setting}
    (alike : List.Forall₂ Setting.Synonymous first second) (item : Option Value) :
    settings item second = settings item first := by
  induction alike with
  | nil => rfl
  | cons synonymous _ ih =>
    rw [settings, settings, ih, setting, setting, synonymous.compile]

namespace Outline

/-- A node compiles as before with synonymous settings and with other children that compile as its
children do. -/
theorem compile_node_synonymous {inherited otherInherited : List Setting}
    (inheritedAlike : List.Forall₂ Setting.Synonymous inherited otherInherited)
    {declaration : Declaration} {otherSettings : List Setting}
    (ownAlike : List.Forall₂ Setting.Synonymous declaration.settings otherSettings)
    {ownChildren : List Child → List Child} {children others : List Outline}
    (below : ∀ name first second, List.Forall₂ Setting.Synonymous first second →
      compileAll name second others = compileAll name first children) (parentName : String) :
    compile parentName otherInherited
        (node (declaration.adjust id (fun _ => otherSettings) ownChildren) others) =
      compile parentName inherited (node declaration children) := by
  let changed := declaration.adjust id (fun _ => otherSettings) ownChildren
  have effective := Setting.overlay_synonymous inheritedAlike ownAlike
  have rest (name : String) :
      compileAll (changed.nameForChildren name)
          (changed.settingsForChildren name (Setting.overlay otherInherited otherSettings)) others =
        compileAll (declaration.nameForChildren name)
          (declaration.settingsForChildren name (Setting.overlay inherited declaration.settings))
          children := by
    apply below
    change List.Forall₂ _ _ (declaration.settingsForChildren name
      (Setting.overlay otherInherited otherSettings))
    unfold Declaration.settingsForChildren
    split
    · exact effective
    · exact .nil
  rw [compile_node, compile_node, Declaration.items_adjust]
  apply congrArg declaration.items.forM
  funext item
  unfold iterate
  simp only [changed, Declaration.settings_adjust] at rest ⊢
  simp only [rest, Declaration.blockName_adjust, Compilation.settings_synonymous effective]
  rfl

mutual

/-- Synonymous settings may be inherited. -/
theorem compile_synonymous {first second : List Setting}
    (alike : List.Forall₂ Setting.Synonymous first second) (parentName : String)
    (outline : Outline) :
    compile parentName second outline = compile parentName first outline := by
  cases outline with
  | invalid failure => rfl
  | node declaration children =>
    change compile parentName second
      (node (declaration.adjust id (fun _ => declaration.settings) id) children) = _
    exact compile_node_synonymous alike (Setting.synonymous_self declaration.settings)
      (fun name _ _ shared => compileAll_synonymous shared name children) parentName
termination_by structural outline

theorem compileAll_synonymous {first second : List Setting}
    (alike : List.Forall₂ Setting.Synonymous first second) (parentName : String)
    (outlines : List Outline) :
    compileAll parentName second outlines = compileAll parentName first outlines := by
  cases outlines with
  | nil => rfl
  | cons outline rest =>
    rw [compileAll, compileAll, compile_synonymous alike parentName outline,
      compileAll_synonymous alike parentName rest]
termination_by structural outlines

end

end Outline

namespace Value

/-- One option of a node takes another name of its keyword. The node is the value itself or stands
below it, under any key for children. -/
inductive RenamedOption : Value → Value → Prop where
  | own {name other : String} (synonyms : Keyword.Synonyms name other) (content : Value)
    (before after : List (String × Value)) :
    RenamedOption (mapping (before ++ (name, content) :: after))
      (mapping (before ++ (other, content) :: after))
  | child {item renamed : Value} (step : RenamedOption item renamed) {key : String}
    (role : Role.ofKey key = .children) (earlier later : List Value)
    (before after : List (String × Value)) :
    RenamedOption (mapping (before ++ (key, sequence (earlier ++ item :: later)) :: after))
      (mapping (before ++ (key, sequence (earlier ++ renamed :: later)) :: after))

/-- The option is one of the only root, or of one of several roots. -/
inductive RenamedOnce : Value → Value → Prop where
  | single {root renamed : Value} (step : RenamedOption root renamed) : RenamedOnce root renamed
  | several {root renamed : Value} (step : RenamedOption root renamed)
    (earlier later : List Value) :
    RenamedOnce (sequence (earlier ++ root :: later)) (sequence (earlier ++ renamed :: later))

/-- Any options of any nodes take other names of their keywords. -/
def Renamed : Value → Value → Prop :=
  Relation.ReflTransGen RenamedOnce

theorem RenamedOption.alikeAsChild {item renamed : Value} (step : RenamedOption item renamed) :
    AlikeAsChild item renamed := by
  cases step <;> exact .success trivial

end Value

namespace Entries

variable {name other : String}

/-- But for its settings, a node keeps its entries when one of its options takes another name. -/
theorem without_setting_renamed (synonyms : Keyword.Synonyms name other) (content : Value)
    (before after : List (String × Value)) :
    without .setting (before ++ (other, content) :: after) =
      without .setting (before ++ (name, content) :: after) := by
  obtain ⟨role, otherRole⟩ := synonyms.role
  simp [without, role, otherRole]

theorem settings_renamed (synonyms : Keyword.Synonyms name other) (content : Value)
    (before after : List (String × Value)) :
    List.Forall₂ Setting.Synonymous (Setting.ofEntries (before ++ (name, content) :: after))
      (Setting.ofEntries (before ++ (other, content) :: after)) := by
  have split (entry : String × Value) : Setting.ofEntries (before ++ entry :: after) =
      Setting.ofEntries before ++ Setting.ofEntries (entry :: after) :=
    List.filterMap_append
  obtain ⟨role, otherRole⟩ := synonyms.role
  rw [split, split, Setting.ofEntries_cons, Setting.ofEntries_cons, if_pos role, if_pos otherRole]
  apply List.rel_append (Setting.synonymous_self _)
  exact .cons ⟨rfl, .inr synonyms⟩ (Setting.synonymous_self _)

theorem childItems_renamed (synonyms : Keyword.Synonyms name other) (content : Value)
    (before after : List (String × Value)) :
    childItems (before ++ (other, content) :: after) =
      childItems (before ++ (name, content) :: after) := by
  obtain ⟨role, otherRole⟩ := synonyms.role
  rw [childItems_append, childItems_append, childItems_cons_of_other (by simp [otherRole]),
    childItems_cons_of_other (by simp [role])]

end Entries

namespace Outline

/-- A list of nodes compiles as before when one of them does. -/
theorem compileAll_replaced {parentName : String} {inherited : List Setting} {root other : Value}
    (same : compile parentName inherited (ofValue other) =
      compile parentName inherited (ofValue root)) (earlier later : List Value) :
    compileAll parentName inherited ((earlier ++ other :: later).map ofValue) =
      compileAll parentName inherited ((earlier ++ root :: later).map ofValue) := by
  rw [List.map_append, List.map_append, compileAll_append, compileAll_append, List.map_cons,
    List.map_cons, compileAll, compileAll, same]

/-- A node compiles as before when one of its options or one of an option below it takes another
name. -/
theorem compile_renamedOption {value renamed : Value} (step : value.RenamedOption renamed)
    (parentName : String) (inherited : List Setting) :
    compile parentName inherited (ofValue renamed) =
      compile parentName inherited (ofValue value) := by
  -- The induction is on the way down to the option, and the node may inherit any settings.
  induction step generalizing parentName inherited with
  | @own name other synonyms content before after =>
    have reads := Declaration.ofEntries_of_without_setting
      (Entries.without_setting_renamed synonyms content before after)
    cases read : Declaration.ofEntries (before ++ (name, content) :: after) with
    | error failure =>
      rw [read] at reads
      rw [ofValue_of_failure read, ofValue_of_failure reads]
    | ok declaration =>
      rw [read] at reads
      have settings := Entries.settings_renamed synonyms content before after
      rw [← Declaration.settings_of_ofEntries read] at settings
      rw [ofValue_of_success read, ofValue_of_success reads, Entries.childItems_renamed synonyms]
      exact compile_node_synonymous (Setting.synonymous_self inherited) settings
        (fun name _ _ shared => compileAll_synonymous shared name _) parentName
  | @child item renamed step key role earlier later before after ih =>
    have readable := Value.readChildren_alike (List.rel_append
      (List.forall₂_same.mpr fun sibling (_ : sibling ∈ earlier) => .refl sibling)
      (.cons step.alikeAsChild
        (List.forall₂_same.mpr fun sibling (_ : sibling ∈ later) => .refl sibling)))
    have reads := Declaration.ofEntries_replaced role readable before after
    have children (name : String) (shared : List Setting) :
        compileAll name shared ((Entries.childItems
            (before ++ (key, .sequence (earlier ++ renamed :: later)) :: after)).map ofValue) =
          compileAll name shared ((Entries.childItems
            (before ++ (key, .sequence (earlier ++ item :: later)) :: after)).map ofValue) := by
      rw [Entries.childItems_append, Entries.childItems_append,
        Entries.childItems_cons_of_children role, Entries.childItems_cons_of_children role]
      split
      · exact compileAll_replaced (ih name shared) earlier later
      · rfl
    generalize read : Declaration.ofEntries
      (before ++ (key, .sequence (earlier ++ item :: later)) :: after) = result at reads
    generalize other : Declaration.ofEntries
      (before ++ (key, .sequence (earlier ++ renamed :: later)) :: after) = changed at reads
    cases reads with
    | failure failure => rw [ofValue_of_failure read, ofValue_of_failure other]
    | @success declaration changed relation =>
      obtain ⟨ownChildren, rfl⟩ := relation
      rw [ofValue_of_success read, ofValue_of_success other]
      change compile parentName inherited (node
        (declaration.adjust id (fun _ => declaration.settings) fun _ => ownChildren) _) = _
      apply compile_node_synonymous (Setting.synonymous_self inherited)
        (Setting.synonymous_self declaration.settings)
      intro name first second shared
      rw [children, compileAll_synonymous shared]

end Outline

theorem compile_renamedOnce {document renamed : Value} (step : document.RenamedOnce renamed) :
    compile renamed = compile document := by
  apply compile_congr
  cases step with
  | single step =>
    have same := Outline.compile_renamedOption step "" []
    cases step <;> exact congrArg (· >>= fun _ => pure ()) same
  | several step earlier later =>
    rw [Outline.ofDocument, Outline.ofDocument, Outline.ofItems_eq_map, Outline.ofItems_eq_map]
    exact Outline.compileAll_replaced (Outline.compile_renamedOption step "" []) earlier later

/-- The spelling of options does not matter. If options of any nodes take other names of their
keywords, the store, the warnings and the failure stay the same, whether the settings are inherited
or not. -/
theorem compile_renamed {document renamed : Value} (names : document.Renamed renamed) :
    compile renamed = compile document := by
  induction names with
  | refl => rfl
  | tail _ step ih => exact (compile_renamedOnce step).trans ih

/-- A root and then its child turn to other names, and the child still overrides its parent. -/
theorem compile_renamed_keepAlive :
    compile (.sequence [.mapping [("Host", .string "gate"), ("inherit", .boolean true),
      ("tcpkeepalive", .boolean true), ("subhosts", .sequence [.string "-b",
        .mapping [("KEEPALIVE", .boolean false), ("Host", .string "-a")]])]]) =
      compile (.sequence [.mapping [("Host", .string "gate"), ("inherit", .boolean true),
        ("KeepAlive", .boolean true), ("subhosts", .sequence [.string "-b",
          .mapping [("TCPKeepAlive", .boolean false), ("Host", .string "-a")]])]]) := by
  let alive : Keyword := ⟨"tcpkeepalive", "TCPKeepAlive", .active⟩
  let legacy : Keyword := ⟨"keepalive", "TCPKeepAlive", .active⟩
  have canonical : Keyword.find? "TCPKeepAlive" = some alive := by decide +kernel
  have lower : Keyword.find? "tcpkeepalive" = some alive := by decide +kernel
  have capital : Keyword.find? "KEEPALIVE" = some legacy := by decide +kernel
  have old : Keyword.find? "KeepAlive" = some legacy := by decide +kernel
  let child (name : String) : List (String × Value) :=
    [(name, .boolean false), ("Host", .string "-a")]
  let root (name below : String) : Value :=
    .mapping [("Host", .string "gate"), ("inherit", .boolean true), (name, .boolean true),
      ("subhosts", .sequence [.string "-b", .mapping (child below)])]
  have first : (root "KeepAlive" "TCPKeepAlive").RenamedOption
      (root "tcpkeepalive" "TCPKeepAlive") :=
    .own ⟨legacy, alive, old, lower, rfl⟩ (.boolean true)
      [("Host", .string "gate"), ("inherit", .boolean true)]
      [("subhosts", .sequence [.string "-b", .mapping (child "TCPKeepAlive")])]
  have inner : (Value.mapping (child "TCPKeepAlive")).RenamedOption
      (.mapping (child "KEEPALIVE")) :=
    .own ⟨alive, legacy, canonical, capital, rfl⟩ (.boolean false) [] [("Host", .string "-a")]
  have second : (root "tcpkeepalive" "TCPKeepAlive").RenamedOption
      (root "tcpkeepalive" "KEEPALIVE") :=
    .child inner Role.ofKey_subhosts [.string "-b"] []
      [("Host", .string "gate"), ("inherit", .boolean true), ("tcpkeepalive", .boolean true)] []
  exact compile_renamed (.tail (.single (.several first [] [])) (.several second [] []))

end HostTree
