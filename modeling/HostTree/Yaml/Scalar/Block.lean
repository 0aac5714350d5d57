/-
This file reads scalars that stand below an indicator as indented lines.
-/

import HostTree.Yaml.Gap

namespace HostTree.Yaml.Block

/-- The breaks at the end are dropped, or one of them is kept, or all of them are. -/
inductive Chomping where
  | strip
  | clip
  | keep
  deriving DecidableEq

structure Header where
  literal : Bool
  chomping : Chomping
  increment : Option Nat

def readChomping (cursor : Cursor) : Option (Chomping × Cursor) :=
  match cursor.head? with
  | some '+' => some (.keep, cursor.skip 1)
  | some '-' => some (.strip, cursor.skip 1)
  | _ => none

/-- The outer option is absent for a zero, which is refused. -/
def readIncrement (cursor : Cursor) : Option (Option Nat × Cursor) :=
  match cursor.head? with
  | some digit =>
    if digit = '0' then none
    else if digit.isDigit then some (some (digit.toNat - '0'.toNat), cursor.skip 1)
    else some (none, cursor)
  | none => some (none, cursor)

/-- The chomping and the increment come in either order, and only a comment may follow them. -/
def readHeader (cursor : Cursor) : Option (Header × Cursor) := do
  let literal := cursor.startsWith '|'
  let start := cursor.skip 1
  let (chomping, increment, afterMarks) ←
    match readChomping start with
    | some (chomping, afterChomping) =>
      (readIncrement afterChomping).map fun (increment, next) => (chomping, increment, next)
    | none =>
      (readIncrement start).map fun (increment, afterIncrement) =>
        match increment.bind fun _ => readChomping afterIncrement with
        | some (chomping, next) => (chomping, increment, next)
        | none => (.clip, increment, afterIncrement)
  let lineEnd := afterMarks.skipSpacesAndTabs.skipComment
  if endsLine lineEnd.head? then some (⟨literal, chomping, increment⟩, lineEnd.skipBreak) else none

def skipSpaces (limit : Option Nat) (cursor : Cursor) : Cursor :=
  let spaces := (cursor.rest.takeWhile (· == ' ')).length
  match limit with
  | none => cursor.skip spaces
  | some indent => cursor.skip (min spaces (indent - cursor.column))

/-- The breaks of empty lines are collected, and so is the deepest column of their spaces. Without
an indent all spaces are indentation. -/
def readEmptyLines (indent : Option Nat) :
    Nat → Nat → String → Cursor → Option (Nat × String × Cursor)
  | 0, deepest, breaks, cursor => some (deepest, breaks, cursor)
  | fuel + 1, deepest, breaks, cursor =>
    let afterSpaces := skipSpaces indent cursor
    let deeper := max deepest afterSpaces.column
    if indent.all (afterSpaces.column < ·) && afterSpaces.startsWith '\t' then none
    else if afterSpaces.atBreak then
      let (text, next) := afterSpaces.takeBreak
      readEmptyLines indent fuel deeper (breaks ++ text) next
    else some (deeper, breaks, afterSpaces)

/-- A gap between two lines is folded unless one of them begins with a blank. -/
def gapText (literal blankBefore blankAfter : Bool) (first others : String) : String :=
  if literal || blankBefore || blankAfter then first ++ others else Gap.fold first others

def readLines (literal : Bool) (indent : Nat) :
    Nat → String → Bool → String → String → Cursor → Option (String × String × String × Cursor)
  | 0, text, _, first, others, cursor => some (text, first, others, cursor)
  | fuel + 1, text, blankBefore, first, others, cursor =>
    if cursor.column ≠ indent ∨ cursor.rest.isEmpty then some (text, first, others, cursor)
    else do
      let blank := cursor.atSpaceOrTab
      let (line, lineEnd) := cursor.takeWhile fun character => !isBreak character
      let longer := text ++ gapText literal blankBefore blank first others ++ String.ofList line
      let (lineBreak, nextLine) := lineEnd.takeBreak
      let (_, breaks, next) ← readEmptyLines (some indent) (fuel + 1) 0 "" nextLine
      readLines literal indent fuel longer blank lineBreak breaks next

/-- The cursor is at the indicator, and the indent is that of the surrounding block. -/
def read (outerIndent : Int) (cursor : Cursor) : Option (String × Cursor) := do
  let (header, start) ← readHeader cursor
  let given := header.increment.map fun increment => (max outerIndent 0).toNat + increment
  let (deepest, breaks, firstLine) ← readEmptyLines given (start.rest.length + 1) 0 "" start
  let indent := given.getD (max deepest (max (outerIndent + 1).toNat 1))
  let (text, lastBreak, others, next) ←
    readLines header.literal indent (firstLine.rest.length + 1) "" false "" breaks firstLine
  return match header.chomping with
    | .strip => (text, next)
    | .clip => (text ++ lastBreak, next)
    | .keep => (text ++ lastBreak ++ others, next)

end HostTree.Yaml.Block
