/-
This file holds what stands between the words of a scalar.
-/

import HostTree.Yaml.Cursor

namespace HostTree.Yaml

/-- Once a gap has a break, its spaces do not count. -/
inductive Gap where
  | spaces (text : String)
  | breaks (first others : String)

namespace Gap

def empty : Gap :=
  spaces ""

/-- A single line feed becomes a space, and the first of several line feeds goes away. -/
def fold (first others : String) : String :=
  if first = "\n" then if others.isEmpty then " " else others
  else first ++ others

def text : Gap → String
  | spaces content => content
  | breaks first others => fold first others

def hasBreak : Gap → Bool
  | spaces _ => false
  | breaks _ _ => true

/-- A tab in the indentation of a later line is refused before the given column. -/
def read (tabColumn : Int) : Nat → Gap → Cursor → Option (Gap × Cursor)
  | 0, gap, cursor => some (gap, cursor)
  | fuel + 1, gap, cursor =>
    match cursor.head? with
    | none => some (gap, cursor)
    | some character =>
      if Text.isSpaceOrTab character then
        match gap with
        | spaces content => read tabColumn fuel (spaces (content.push character)) (cursor.skip 1)
        | breaks first others =>
          if character = '\t' ∧ cursor.column < tabColumn then none
          else read tabColumn fuel (breaks first others) (cursor.skip 1)
      else if isBreak character then
        let (text, next) := cursor.takeBreak
        match gap with
        | spaces _ => read tabColumn fuel (breaks text "") next
        | breaks first others => read tabColumn fuel (breaks first (others ++ text)) next
      else some (gap, cursor)

end Gap
end HostTree.Yaml
