/-
This file builds the nodes of a YAML document from its tokens.
-/

import HostTree.Yaml.Token

namespace HostTree.Yaml

/-- Anchors and references name nodes in a way of their own choice. -/
inductive Node (Name : Type) where
  | reference (target : Name)
  | scalar (anchor : Option Name) (tag : Option Tag) (text : String) (plain : Bool)
  | sequence (anchor : Option Name) (tag : Option Tag) (items : List (Node Name))
  | mapping (anchor : Option Name) (tag : Option Tag) (entries : List (Node Name × Node Name))

namespace Node

def empty : Node String :=
  scalar none none "" true

/-- Each handle stands for the beginning of a tag. -/
abbrev Handles := List (String × Tag)

def usualHandles : Handles :=
  [("!", .ofText "!"), ("!!", .standard "")]

/-- A tag without a handle is whole. -/
def wholeTag? (handles : Handles) (handle : String) (rest : Tag) : Option Tag :=
  if handle.isEmpty then some rest else (handles.lookup handle).map (·.append rest)

/-- An anchor and a tag come in either order, and each of them once. -/
def properties (handles : Handles) :
    List Token → Option (Option String × Option Tag × List Token)
  | .anchor name :: .tag handle rest :: tokens =>
    (wholeTag? handles handle rest).map fun tag => (some name, some tag, tokens)
  | .tag handle rest :: .anchor name :: tokens =>
    (wholeTag? handles handle rest).map fun tag => (some name, some tag, tokens)
  | .tag handle rest :: tokens =>
    (wholeTag? handles handle rest).map fun tag => (none, some tag, tokens)
  | .anchor name :: tokens => some (some name, none, tokens)
  | tokens => some (none, none, tokens)

def starts (tokens : List Token) (candidates : List Token) : Bool :=
  tokens.head?.any candidates.contains

mutual

/-- A node in a block may be a block collection, and a sequence that is no deeper than its mapping
begins with its first entry. An anchor or a tag alone belongs to an empty scalar. -/
def read (handles : Handles) (inBlock flush : Bool) :
    Nat → List Token → Option (Node String × List Token)
  | 0, _ => none
  | _ + 1, .reference name :: tokens => some (reference name, tokens)
  | fuel + 1, tokens => do
    let (anchor, tag, rest) ← properties handles tokens
    match rest with
    | .scalar text plain :: after =>
      some (scalar anchor tag text plain, after)
    | .flowSequenceStart :: after =>
      let (items, next) ← readFlowItems handles true fuel after
      some (sequence anchor tag items, next)
    | .flowMappingStart :: after =>
      let (entries, next) ← readFlowEntries handles true fuel after
      some (mapping anchor tag entries, next)
    | _ =>
      if flush && starts rest [.blockEntry] then
        let (items, next) ← readFlushItems handles fuel rest
        some (sequence anchor tag items, next)
      else if inBlock && starts rest [.blockSequenceStart] then
        let (items, next) ← readBlockItems handles fuel (rest.drop 1)
        some (sequence anchor tag items, next)
      else if inBlock && starts rest [.blockMappingStart] then
        let (entries, next) ← readBlockEntries handles fuel (rest.drop 1)
        some (mapping anchor tag entries, next)
      else if anchor.isSome || tag.isSome then some (scalar anchor tag "" true, rest)
      else none
termination_by structural fuel => fuel

/-- The node is empty when one of the given tokens follows. -/
def readUnless (handles : Handles) (inBlock flush : Bool) (ends : List Token) :
    Nat → List Token → Option (Node String × List Token)
  | 0, _ => none
  | fuel + 1, tokens =>
    if starts tokens ends then some (empty, tokens)
    else read handles inBlock flush fuel tokens
termination_by structural fuel => fuel

def readBlockItems (handles : Handles) :
    Nat → List Token → Option (List (Node String) × List Token)
  | fuel + 1, .blockEntry :: tokens => do
    let (item, afterItem) ←
      readUnless handles true false [.blockEntry, .blockEnd] fuel tokens
    let (items, next) ← readBlockItems handles fuel afterItem
    some (item :: items, next)
  | _ + 1, .blockEnd :: tokens => some ([], tokens)
  | _, _ => none
termination_by structural fuel => fuel

/-- The sequence ends with its mapping or with the next key of it. -/
def readFlushItems (handles : Handles) :
    Nat → List Token → Option (List (Node String) × List Token)
  | fuel + 1, .blockEntry :: tokens => do
    let (item, afterItem) ←
      readUnless handles true false [.blockEntry, .key, .value, .blockEnd] fuel tokens
    let (items, next) ← readFlushItems handles fuel afterItem
    some (item :: items, next)
  | _ + 1, tokens => some ([], tokens)
  | 0, _ => none
termination_by structural fuel => fuel

def readBlockEntries (handles : Handles) :
    Nat → List Token → Option (List (Node String × Node String) × List Token)
  | fuel + 1, .key :: tokens => do
    let (key, afterKey) ←
      readUnless handles true true [.key, .value, .blockEnd] fuel tokens
    let (content, afterContent) ← match afterKey with
      | .value :: rest => readUnless handles true true [.key, .value, .blockEnd] fuel rest
      | _ => some (empty, afterKey)
    let (entries, next) ← readBlockEntries handles fuel afterContent
    some ((key, content) :: entries, next)
  | _ + 1, .blockEnd :: tokens => some ([], tokens)
  | _, _ => none
termination_by structural fuel => fuel

/-- A key among the items begins a mapping of one entry. -/
def readFlowItem (handles : Handles) : Nat → List Token → Option (Node String × List Token)
  | fuel + 1, .key :: tokens => do
    let (key, afterKey) ←
      if starts tokens [.value, .flowEntry, .flowSequenceEnd] then some (empty, tokens.drop 1)
      else read handles false false fuel tokens
    let (content, next) ← match afterKey with
      | .value :: rest =>
        readUnless handles false false [.flowEntry, .flowSequenceEnd] fuel rest
      | _ => some (empty, afterKey)
    some (mapping none none [(key, content)], next)
  | fuel + 1, tokens => read handles false false fuel tokens
  | 0, _ => none
termination_by structural fuel => fuel

/-- A comma stands between two items and may stand after the last one. -/
def readFlowItems (handles : Handles) (first : Bool) :
    Nat → List Token → Option (List (Node String) × List Token)
  | 0, _ => none
  | _ + 1, .flowSequenceEnd :: tokens => some ([], tokens)
  | fuel + 1, tokens => do
    let afterComma ← match first, tokens with
      | true, _ => some tokens
      | false, .flowEntry :: rest => some rest
      | false, _ => none
    match afterComma with
    | .flowSequenceEnd :: rest => some ([], rest)
    | _ =>
      let (item, afterItem) ← readFlowItem handles fuel afterComma
      let (items, next) ← readFlowItems handles false fuel afterItem
      some (item :: items, next)
termination_by structural fuel => fuel

def readFlowEntry (handles : Handles) :
    Nat → List Token → Option ((Node String × Node String) × List Token)
  | fuel + 1, .key :: tokens => do
    let (key, afterKey) ←
      readUnless handles false false [.value, .flowEntry, .flowMappingEnd] fuel tokens
    let (content, next) ← match afterKey with
      | .value :: rest =>
        readUnless handles false false [.flowEntry, .flowMappingEnd] fuel rest
      | _ => some (empty, afterKey)
    some ((key, content), next)
  | fuel + 1, tokens => do
    let (key, next) ← read handles false false fuel tokens
    some ((key, empty), next)
  | 0, _ => none
termination_by structural fuel => fuel

def readFlowEntries (handles : Handles) (first : Bool) :
    Nat → List Token → Option (List (Node String × Node String) × List Token)
  | 0, _ => none
  | _ + 1, .flowMappingEnd :: tokens => some ([], tokens)
  | fuel + 1, tokens => do
    let afterComma ← match first, tokens with
      | true, _ => some tokens
      | false, .flowEntry :: rest => some rest
      | false, _ => none
    match afterComma with
    | .flowMappingEnd :: rest => some ([], rest)
    | _ =>
      let (entry, afterEntry) ← readFlowEntry handles fuel afterComma
      let (entries, next) ← readFlowEntries handles false fuel afterEntry
      some (entry :: entries, next)
termination_by structural fuel => fuel

end

/-- The version is one that is known, and no directive comes twice. -/
def readDirectives (versionSeen : Bool) (handles : Handles) :
    List Token → Option (Handles × List Token)
  | .version major minor :: tokens =>
    if versionSeen ∨ major ≠ 1 ∨ (minor ≠ 1 ∧ minor ≠ 2) then none
    else readDirectives true handles tokens
  | .tagHandle handle beginning :: tokens =>
    if (handles.lookup handle).isSome then none
    else readDirectives versionSeen ((handle, beginning) :: handles) tokens
  | tokens => some (handles, tokens)

/-- Without directives and a divider the document begins with its node. -/
def readDocument (tokens : List Token) : Option (Node String × List Token) := do
  let fuel := 4 * tokens.length + 4
  let (handles, afterDirectives) ← readDirectives false [] tokens
  match afterDirectives with
  | .documentStart :: rest =>
    if rest.head?.any isBoundary then some (empty, rest)
    else read (handles ++ usualHandles) true false fuel rest
  | _ =>
    if afterDirectives.length < tokens.length then none
    else read usualHandles true false fuel tokens
where
  isBoundary : Token → Bool
    | .version .. | .tagHandle .. | .documentStart | .documentEnd | .textEnd => true
    | _ => false

/-- A text without a document has an empty one, and a second document is refused. -/
def ofTokens (tokens : List Token) : Option (Node String) :=
  match tokens with
  | [.textEnd] => some empty
  | _ => do
    let (node, rest) ← readDocument tokens
    match rest.dropWhile (· == .documentEnd) with
    | [.textEnd] => some node
    | _ => none

end Node
end HostTree.Yaml
