/-
This file cuts a YAML text into tokens.
-/

import HostTree.Yaml.Scalar.Block
import HostTree.Yaml.Scalar.Plain
import HostTree.Yaml.Scalar.Quoted
import HostTree.Yaml.Token

namespace HostTree.Yaml

/-- A token that may turn out to be a key keeps its place among the tokens and in the text. A
required one has to turn out to be a key. -/
structure PossibleKey where
  required : Bool
  place : Nat
  offset : Nat
  line : Nat
  column : Nat

/-- The tokens read so far are in reverse. The indents are those of the open block collections, and
there is one place for a possible key in each open flow collection and one outside. -/
structure TokenStream where
  cursor : Cursor
  tokens : List Token := []
  count : Nat := 0
  indent : Int := -1
  outerIndents : List Int := []
  keyAllowed : Bool := true
  key : Option PossibleKey := none
  outerKeys : List (Option PossibleKey) := []
  finished : Bool := false

namespace TokenStream

def inFlow (stream : TokenStream) : Bool :=
  !stream.outerKeys.isEmpty

def push (stream : TokenStream) (token : Token) : TokenStream :=
  { stream with tokens := token :: stream.tokens, count := stream.count + 1 }

/-- The token goes before the one at the given place. -/
def insertAt (stream : TokenStream) (place : Nat) (token : Token) : TokenStream :=
  let (later, earlier) := stream.tokens.splitAt (stream.count - place)
  { stream with tokens := later ++ token :: earlier, count := stream.count + 1 }

def moveTo (stream : TokenStream) (cursor : Cursor) : TokenStream :=
  { stream with cursor := cursor }

def allowKey (stream : TokenStream) (allowed : Bool) : TokenStream :=
  { stream with keyAllowed := allowed }

/-- A byte order mark may begin a line. A tab may stand before a token only where no key may
begin. -/
def skipGap : Nat → TokenStream → TokenStream
  | 0, stream => stream
  | fuel + 1, stream =>
    let tabCounts := stream.inFlow || !stream.keyAllowed
    let lineEnd := (stream.cursor.skipOrderMark.skipWhile fun character =>
      character == ' ' || (tabCounts && character == '\t')).skipComment
    if lineEnd.atBreak then
      skipGap fuel { stream with
        cursor := lineEnd.skipBreak
        keyAllowed := stream.keyAllowed || !stream.inFlow }
    else stream.moveTo lineEnd

/-- A key stands on one line and within a limited distance before its colon. -/
def isStale (cursor : Cursor) (key : PossibleKey) : Bool :=
  key.line < cursor.line || key.offset + 1024 < cursor.offset

/-- The outer option is absent when a required key is no key. -/
def dropStale (cursor : Cursor) : Option PossibleKey → Option (Option PossibleKey)
  | none => some none
  | some key =>
    if ¬ isStale cursor key then some (some key)
    else if key.required then none
    else some none

def dropStaleKeys (stream : TokenStream) : Option TokenStream := do
  return { stream with
    key := ← dropStale stream.cursor stream.key
    outerKeys := ← stream.outerKeys.mapM (dropStale stream.cursor) }

def forgetKey (stream : TokenStream) : Option TokenStream :=
  if stream.key.any PossibleKey.required then none else some { stream with key := none }

/-- The next token may be a key. At the indent of the open block it has to be one. -/
def expectKey (stream : TokenStream) : Option TokenStream :=
  if ¬ stream.keyAllowed then some stream
  else do
    let cursor := stream.cursor
    let required := !stream.inFlow && stream.indent == cursor.column
    let forgetful ← stream.forgetKey
    return { forgetful with
      key := some ⟨required, stream.count, cursor.offset, cursor.line, cursor.column⟩ }

/-- A deeper column opens a block collection, whose first token goes to the given place. -/
def openBlock (stream : TokenStream) (column : Nat) (place : Nat) (token : Token) : TokenStream :=
  if ¬ stream.inFlow ∧ stream.indent < column then
    { stream.insertAt place token with
      indent := column
      outerIndents := stream.indent :: stream.outerIndents }
  else stream

def closeBlocksWith (indents : List Int) (column : Int) (stream : TokenStream) : TokenStream :=
  match indents with
  | [] => stream
  | outer :: rest =>
    if column < stream.indent then
      closeBlocksWith rest column
        { stream.push .blockEnd with indent := outer, outerIndents := rest }
    else stream

/-- The block collections that are deeper than the column end. -/
def closeBlocks (stream : TokenStream) (column : Int) : TokenStream :=
  if stream.inFlow then stream else closeBlocksWith stream.outerIndents column stream

def addEnd (stream : TokenStream) : Option TokenStream := do
  let forgetful ← (stream.closeBlocks (-1)).forgetKey
  return { forgetful.push .textEnd with finished := true }

def addDirective (stream : TokenStream) : Option TokenStream := do
  let forgetful ← (stream.closeBlocks (-1)).forgetKey
  let (token, next) ← Token.readDirective stream.cursor
  return ((forgetful.allowKey false).moveTo next).push token

def addDivider (stream : TokenStream) (token : Token) : Option TokenStream := do
  let forgetful ← (stream.closeBlocks (-1)).forgetKey
  return ((forgetful.allowKey false).moveTo (stream.cursor.skip 3)).push token

def addFlowStart (stream : TokenStream) (token : Token) : Option TokenStream := do
  let expectant ← stream.expectKey
  return { (expectant.moveTo (stream.cursor.skip 1)).push token with
    keyAllowed := true
    key := none
    outerKeys := expectant.key :: expectant.outerKeys }

def addFlowEnd (stream : TokenStream) (token : Token) : Option TokenStream := do
  let forgetful ← stream.forgetKey
  let outside := match forgetful.outerKeys with
    | [] => forgetful
    | key :: rest => { forgetful with key := key, outerKeys := rest }
  return ((outside.allowKey false).moveTo (stream.cursor.skip 1)).push token

def addFlowEntry (stream : TokenStream) : Option TokenStream := do
  let forgetful ← stream.forgetKey
  return ((forgetful.allowKey true).moveTo (stream.cursor.skip 1)).push .flowEntry

/-- Outside flow collections an entry stands only where a key may stand. -/
def openEntry (stream : TokenStream) (token : Token) : Option TokenStream :=
  if stream.inFlow then some stream
  else if ¬ stream.keyAllowed then none
  else some (stream.openBlock stream.cursor.column stream.count token)

def addBlockEntry (stream : TokenStream) : Option TokenStream := do
  let forgetful ← (← stream.openEntry .blockSequenceStart).forgetKey
  return ((forgetful.allowKey true).moveTo (stream.cursor.skip 1)).push .blockEntry

def addKey (stream : TokenStream) : Option TokenStream := do
  let forgetful ← (← stream.openEntry .blockMappingStart).forgetKey
  return ((forgetful.allowKey (!stream.inFlow)).moveTo (stream.cursor.skip 1)).push .key

/-- The colon makes the possible key before it a key. -/
def addValue (stream : TokenStream) : Option TokenStream := do
  let ready ← match stream.key with
    | some key =>
      let marked := stream.insertAt key.place .key
      let keyed := marked.openBlock key.column key.place .blockMappingStart
      some { keyed with key := none, keyAllowed := false }
    | none => (stream.openEntry .blockMappingStart).map (·.allowKey (!stream.inFlow))
  return (ready.moveTo (stream.cursor.skip 1)).push .value

/-- The token and the cursor behind it come from a reader. -/
def addRead (stream : TokenStream) (read : Option (Token × Cursor)) : Option TokenStream := do
  let expectant ← stream.expectKey
  let (token, next) ← read
  return ((expectant.allowKey false).moveTo next).push token

def addBlockScalar (stream : TokenStream) : Option TokenStream := do
  let forgetful ← stream.forgetKey
  let (text, next) ← Block.read stream.indent stream.cursor
  return ((forgetful.allowKey true).moveTo next).push (.scalar text false)

def addQuoted (stream : TokenStream) (quote : Char) : Option TokenStream :=
  stream.addRead ((Quoted.read quote stream.cursor).map fun (text, next) =>
    (.scalar text false, next))

/-- A key may stand on the line after a plain scalar. -/
def addPlain (stream : TokenStream) : Option TokenStream := do
  let (text, broken, next) ← Plain.read stream.inFlow (stream.indent + 1) stream.cursor
  let added ← stream.addRead (some (.scalar text true, next))
  return added.allowKey broken

/-- Some indicators begin a plain scalar when no gap follows them. -/
def beginsPlain (inFlow : Bool) (character : Char) (next : Option Char) : Bool :=
  !(isGap character || isIndicator character)
    || (character == '-' && !next.any Text.isSpaceOrTab)
    || (!inFlow && (character == '?' || character == ':') && !endsWord next)

def add (stream : TokenStream) : Option TokenStream :=
  let cursor := stream.cursor
  match cursor.head? with
  | none => stream.addEnd
  | some character =>
    let next := cursor.ahead? 1
    if cursor.column = 0 ∧ character = '%' then stream.addDirective
    else if cursor.atDivider '-' then stream.addDivider .documentStart
    else if cursor.atDivider '.' then stream.addDivider .documentEnd
    else if character = '[' then stream.addFlowStart .flowSequenceStart
    else if character = '{' then stream.addFlowStart .flowMappingStart
    else if character = ']' then stream.addFlowEnd .flowSequenceEnd
    else if character = '}' then stream.addFlowEnd .flowMappingEnd
    else if character = ',' then stream.addFlowEntry
    else if character = '-' ∧ endsWord next then stream.addBlockEntry
    else if character = '?' ∧ (stream.inFlow ∨ endsWord next) then stream.addKey
    else if character = ':' ∧ (stream.inFlow ∨ endsWord next) then stream.addValue
    else if character = '*' then
      stream.addRead ((Token.readName cursor).map fun (name, next) => (.reference name, next))
    else if character = '&' then
      stream.addRead ((Token.readName cursor).map fun (name, next) => (.anchor name, next))
    else if character = '!' then stream.addRead (Token.readTag stream.inFlow cursor)
    else if (character = '|' ∨ character = '>') ∧ ¬ stream.inFlow then stream.addBlockScalar
    else if character = '\'' ∨ character = '"' then stream.addQuoted character
    else if beginsPlain stream.inFlow character next then stream.addPlain
    else none

/-- Each step reads at least one character, or the end of the text. -/
def readAll : Nat → TokenStream → Option (List Token)
  | 0, _ => none
  | fuel + 1, stream =>
    if stream.finished then some stream.tokens.reverse
    else do
      let ready ← (skipGap (fuel + 1) stream).dropStaleKeys
      readAll fuel (← (ready.closeBlocks ready.cursor.column).add)

def ofText (text : List Char) : Option (List Token) :=
  if text.all isAllowed then readAll (text.length + 2) { cursor := { rest := text } } else none

end TokenStream
end HostTree.Yaml
