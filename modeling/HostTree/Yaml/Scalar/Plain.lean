/-
This file reads scalars without quotes.
-/

import HostTree.Yaml.Gap

namespace HostTree.Yaml.Plain

/-- A word ends before a gap and before a colon with a gap. In a flow collection the indicators of
collections end it too, and a colon right before one of them is refused. -/
def readWord (inFlow : Bool) : Nat → String → Cursor → Option (String × Cursor)
  | 0, word, cursor => some (word, cursor)
  | fuel + 1, word, cursor =>
    match cursor.head? with
    | none => some (word, cursor)
    | some character =>
      let next := cursor.ahead? 1
      if isGap character then some (word, cursor)
      else if inFlow && character == ':'
          && next.any (fun other => other == '?' || isFlowIndicator other) then none
      else if character == ':' && endsWord next then some (word, cursor)
      else if inFlow && isFlowIndicator character then some (word, cursor)
      else readWord inFlow fuel (word.push character) (cursor.skip 1)

/-- The gap before the next word is kept until the word turns out to exist. A comment needs a gap
before it. -/
def readWords (inFlow : Bool) (indent : Int) :
    Nat → String → Gap → Cursor → Option (String × Gap × Cursor)
  | 0, text, gap, cursor => some (text, gap, cursor)
  | fuel + 1, text, gap, cursor =>
    if cursor.atAnyDivider || cursor.startsWith '#' then some (text, gap, cursor)
    else do
      let (word, afterWord) ← readWord inFlow (fuel + 1) "" cursor
      if word.isEmpty then some (text, gap, afterWord)
      else
        let longer := text ++ gap.text ++ word
        if ¬ afterWord.head?.any isGap then some (longer, Gap.empty, afterWord)
        else
          let (next, afterGap) ← Gap.read indent (fuel + 1) Gap.empty afterWord
          if !inFlow && afterGap.column < indent then some (longer, next, afterGap)
          else readWords inFlow indent fuel longer next afterGap

/-- The flag says whether the scalar was followed by a break. -/
def read (inFlow : Bool) (indent : Int) (cursor : Cursor) : Option (String × Bool × Cursor) := do
  let (text, gap, next) ← readWords inFlow indent (cursor.rest.length + 1) "" Gap.empty cursor
  return (text, gap.hasBreak, next)

end HostTree.Yaml.Plain
