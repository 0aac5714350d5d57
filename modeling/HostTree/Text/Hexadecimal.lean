/-
This file reads the codes of characters in base sixteen.
-/

namespace HostTree.Text

def hexDigit? (character : Char) : Option Nat :=
  if character.isDigit then some (character.toNat - '0'.toNat)
  else if 'a' ≤ character ∧ character ≤ 'f' then some (character.toNat - 'a'.toNat + 10)
  else if 'A' ≤ character ∧ character ≤ 'F' then some (character.toNat - 'A'.toNat + 10)
  else none

def hexValue? (digits : List Char) : Option Nat :=
  digits.foldlM (fun value digit => (hexDigit? digit).map (16 * value + ·)) 0

/-- A code outside the range of characters has none. -/
def characterOfCode? (code : Nat) : Option Char :=
  if code.isValidChar then some (Char.ofNat code) else none

/-- The first digits of the text are the code of a character, which the rest follows. -/
def takeCode? (length : Nat) (text : List Char) : Option (Char × List Char) :=
  let digits := text.take length
  if digits.length < length then none
  else do return (← characterOfCode? (← hexValue? digits), text.drop length)

end HostTree.Text
