/-
This file holds the character classes of YAML.
-/

import HostTree.Text.Blank

namespace HostTree.Yaml

open Text (isSpaceOrTab)

/-- Control characters are not part of any document. -/
def isAllowed (character : Char) : Bool :=
  let code := character.toNat
  character == '\t' || character == '\n' || character == '\r' || code == 0x85
    || (0x20 ≤ code && code ≤ 0x7e) || (0xa0 ≤ code && code ≤ 0xfffd)
    || 0x10000 ≤ code

def isBreak (character : Char) : Bool :=
  ['\n', '\r', '\u0085', '\u2028', '\u2029'].contains character

def isGap (character : Char) : Bool :=
  isSpaceOrTab character || isBreak character

/-- The end of the text ends a line. -/
def endsLine : Option Char → Bool
  | none => true
  | some character => isBreak character

/-- The end of the text ends a word. -/
def endsWord : Option Char → Bool
  | none => true
  | some character => isGap character

/-- Names of anchors and handles of tags are made of these. -/
def isNameCharacter (character : Char) : Bool :=
  character.isAlphanum || character == '_' || character == '-'

def isFlowIndicator (character : Char) : Bool :=
  [',', '[', ']', '{', '}'].contains character

def isTagCharacter (character : Char) : Bool :=
  isNameCharacter character
    || [';', '/', '?', ':', '@', '&', '=', '+', '$', '.', '!', '~', '*', '\'', '(', ')',
      '%'].contains character

/-- A tag between angle brackets may also hold these. -/
def isVerbatimTagCharacter (character : Char) : Bool :=
  isTagCharacter character || [',', '[', ']'].contains character

/-- A plain scalar does not begin with one of these. -/
def isIndicator (character : Char) : Bool :=
  isFlowIndicator character
    || ['-', '?', ':', '#', '&', '*', '!', '|', '>', '\'', '"', '%', '@', '`'].contains character

end HostTree.Yaml
