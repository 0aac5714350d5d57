/-
This file holds the tokens of YAML and reads those that begin with an indicator of their own.
-/

import HostTree.Yaml.Cursor
import HostTree.Yaml.Tag

namespace HostTree.Yaml

/-- A tag is a handle and the rest of the name behind it. Only the scalars without quotes and
without an indicator are plain. -/
inductive Token where
  | textEnd
  | version (major minor : Nat)
  | tagHandle (handle : String) (beginning : Tag)
  | documentStart
  | documentEnd
  | blockSequenceStart
  | blockMappingStart
  | blockEnd
  | flowSequenceStart
  | flowSequenceEnd
  | flowMappingStart
  | flowMappingEnd
  | blockEntry
  | flowEntry
  | key
  | value
  | reference (name : String)
  | anchor (name : String)
  | tag (handle : String) (rest : Tag)
  | scalar (text : String) (plain : Bool)
  deriving DecidableEq, Repr

namespace Token

/-- The cursor is at the indicator of an anchor or a reference. -/
def readName (cursor : Cursor) : Option (String × Cursor) :=
  let (name, next) := (cursor.skip 1).takeWhile isNameCharacter
  let ends := endsWord next.head?
    || next.head?.any fun character => ['?', ':', ',', ']', '}', '%', '@', '`'].contains character
  if name.isEmpty || !ends then none else some (String.ofList name, next)

/-- The cursor is at the exclamation mark. In a directive a named handle has a second one. -/
def readHandle (inDirective : Bool) (cursor : Cursor) : Option (String × Cursor) :=
  if ¬ cursor.startsWith '!' then none
  else
    let (name, next) := (cursor.skip 1).takeWhile isNameCharacter
    if next.startsWith '!' then some (String.ofList ('!' :: name ++ ['!']), next.skip 1)
    else if inDirective && !name.isEmpty then none
    else some (String.ofList ('!' :: name), next)

/-- The cursor is at the exclamation mark. A tag is verbatim between angle brackets, has a handle,
or belongs to the primary handle. A lone exclamation mark is a tag of its own. -/
def readTag (inFlow : Bool) (cursor : Cursor) : Option (Token × Cursor) := do
  let (token, next) ←
    if cursor.ahead? 1 == some '<' then do
      let (text, next) := (cursor.skip 2).takeWhile isVerbatimTagCharacter
      if text.isEmpty || !next.startsWith '>' then none
      else some (tag "" (← Tag.decode? text), next.skip 1)
    else do
      let (handle, afterHandle) ← readHandle false cursor
      let (text, next) := afterHandle.takeWhile isTagCharacter
      if handle.length > 1 ∧ handle.endsWith "!" then
        if text.isEmpty then none else some (tag handle (← Tag.decode? text), next)
      else
        let whole ← Tag.decode? (handle.toList.drop 1 ++ text)
        some (if whole.isEmpty then tag "" (.ofText "!") else tag "!" whole, next)
  if endsWord next.head? || (inFlow && next.startsWith ',') then some (token, next) else none

def readNumber (cursor : Cursor) : Option (Nat × Cursor) :=
  let (digits, next) := cursor.takeWhile Char.isDigit
  if digits.isEmpty || digits.length > 9 then none
  else some (Nat.ofDigitChars 10 digits 0, next)

/-- The cursor is behind the name of the directive. -/
def readVersion (cursor : Cursor) : Option (Token × Cursor) := do
  let (major, afterMajor) ← readNumber cursor.skipSpacesAndTabs
  if ¬ afterMajor.startsWith '.' then none
  else
    let (minor, next) ← readNumber (afterMajor.skip 1)
    return (version major minor, next)

/-- The cursor is behind the name of the directive. -/
def readTagHandle (cursor : Cursor) : Option (Token × Cursor) := do
  let (handle, afterHandle) ← readHandle true cursor.skipSpacesAndTabs
  if ¬ afterHandle.atSpaceOrTab then none
  else
    let (text, next) := afterHandle.skipSpacesAndTabs.takeWhile isVerbatimTagCharacter
    if text.isEmpty || !endsWord next.head? then none
    else some (tagHandle handle (← Tag.decode? text), next)

/-- The cursor is at the percent sign. Only a comment may follow on the line. -/
def readDirective (cursor : Cursor) : Option (Token × Cursor) := do
  let (name, afterName) := (cursor.skip 1).takeWhile isNameCharacter
  if ¬ endsWord afterName.head? then none
  else
    let (token, afterToken) ←
      if String.ofList name = "YAML" then readVersion afterName
      else if String.ofList name = "TAG" then readTagHandle afterName
      else none
    let lineEnd := afterToken.skipSpacesAndTabs.skipComment
    if endsLine lineEnd.head? then some (token, lineEnd.skipBreak) else none

end Token
end HostTree.Yaml
