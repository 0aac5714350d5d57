/-
This file reads scalars between quotes.
-/

import HostTree.Text.Hexadecimal
import HostTree.Yaml.Gap

namespace HostTree.Yaml.Quoted

/-- These are the escapes of one character. -/
def escaped? : Char → Option Char
  | '0' => some '\x00'
  | 'a' => some '\x07'
  | 'b' => some '\x08'
  | 't' => some '\t'
  | '\t' => some '\t'
  | 'n' => some '\n'
  | 'v' => some '\x0b'
  | 'f' => some '\x0c'
  | 'r' => some '\r'
  | 'e' => some '\x1b'
  | ' ' => some ' '
  | '"' => some '"'
  | '/' => some '/'
  | '\\' => some '\\'
  | 'N' => some '\u0085'
  | '_' => some '\u00a0'
  | 'L' => some '\u2028'
  | 'P' => some '\u2029'
  | _ => none

/-- These letters are followed by the hexadecimal digits of a code. -/
def codeLength? : Char → Option Nat
  | 'x' => some 2
  | 'u' => some 4
  | 'U' => some 8
  | _ => none

/-- The cursor is behind the backslash. -/
def readEscape (cursor : Cursor) : Option (Char × Cursor) := do
  let letter ← cursor.head?
  match escaped? letter with
  | some character => some (character, cursor.skip 1)
  | none =>
    let length ← codeLength? letter
    let (character, _) ← Text.takeCode? length (cursor.skip 1).rest
    some (character, cursor.skip (1 + length))

/-- A word ends before a gap and before the closing quote. A doubled single quote is a quote, and
in double quotes an escaped break begins a gap that counts for nothing. -/
def readWord (quote : Char) : Nat → String → Cursor → Option (String × Gap × Cursor)
  | 0, _, _ => none
  | fuel + 1, word, cursor =>
    match cursor.rest with
    | [] => some (word, Gap.empty, cursor)
    | '\'' :: '\'' :: _ =>
      if quote = '\'' then readWord quote fuel (word.push '\'') (cursor.skip 2)
      else readWord quote fuel (word.push '\'') (cursor.skip 1)
    | character :: rest =>
      if isGap character || character == quote then some (word, Gap.empty, cursor)
      else if quote = '"' ∧ character = '\\' then
        if rest.head?.any isBreak then some (word, .breaks "" "", (cursor.skip 1).skipBreak)
        else do
          let (escaped, next) ← readEscape (cursor.skip 1)
          readWord quote fuel (word.push escaped) next
      else readWord quote fuel (word.push character) (cursor.skip 1)

/-- No divider of documents may stand in a scalar. -/
def readWords (quote : Char) : Nat → String → Cursor → Option (String × Cursor)
  | 0, _, _ => none
  | fuel + 1, text, cursor =>
    if cursor.atAnyDivider || cursor.rest.isEmpty then none
    else do
      let (word, gap, afterWord) ← readWord quote (fuel + 1) "" cursor
      let longer := text ++ word
      if afterWord.startsWith quote then some (longer, afterWord.skip 1)
      else
        let (whole, afterGap) ← Gap.read 0 (fuel + 1) gap afterWord
        readWords quote fuel (longer ++ whole.text) afterGap

/-- The cursor is at the opening quote. -/
def read (quote : Char) (cursor : Cursor) : Option (String × Cursor) :=
  readWords quote (cursor.rest.length + 1) "" (cursor.skip 1)

end HostTree.Yaml.Quoted
