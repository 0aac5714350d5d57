/-
This file holds the class of blank characters and the trimming of texts.
-/

namespace HostTree.Text

/-- Blank characters are the members of the White_Space property of Unicode. -/
def blankCharacters : List Char :=
  ['\t', '\n', '\u000b', '\u000c', '\r', ' ', '\u0085', '\u00a0', '\u1680',
    '\u2000', '\u2001', '\u2002', '\u2003', '\u2004', '\u2005', '\u2006', '\u2007', '\u2008',
    '\u2009', '\u200a', '\u2028', '\u2029', '\u202f', '\u205f', '\u3000']

def isBlank (character : Char) : Bool :=
  blankCharacters.contains character

def isSpaceOrTab (character : Char) : Bool :=
  character == ' ' || character == '\t'

def dropBlanks (text : List Char) : List Char :=
  text.dropWhile isBlank

/-- Blanks between other characters stay. -/
def trimCharacters (text : List Char) : List Char :=
  (dropBlanks (dropBlanks text).reverse).reverse

def trim (text : String) : String :=
  String.ofList (trimCharacters text.toList)

end HostTree.Text
