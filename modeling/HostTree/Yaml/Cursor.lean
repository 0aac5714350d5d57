/-
This file holds a place in a YAML text.
-/

import HostTree.Yaml.Character

namespace HostTree.Yaml

/-- The offset counts the octets of the text before the place, and the column counts the characters
of the line before it. -/
structure Cursor where
  rest : List Char
  offset : Nat := 0
  line : Nat := 0
  column : Nat := 0

namespace Cursor

def octetCount (text : List Char) : Nat :=
  text.foldl (fun count character => count + character.utf8Size) 0

def head? (cursor : Cursor) : Option Char :=
  cursor.rest.head?

def ahead? (cursor : Cursor) (distance : Nat) : Option Char :=
  cursor.rest[distance]?

def startsWith (cursor : Cursor) (character : Char) : Bool :=
  cursor.head? == some character

def atSpaceOrTab (cursor : Cursor) : Bool :=
  cursor.head?.any Text.isSpaceOrTab

def atBreak (cursor : Cursor) : Bool :=
  cursor.head?.any isBreak

/-- The skipped characters are on one line. -/
def skip (cursor : Cursor) (count : Nat) : Cursor :=
  { cursor with
    rest := cursor.rest.drop count
    offset := cursor.offset + octetCount (cursor.rest.take count)
    column := cursor.column + count }

/-- A carriage return and a line feed together are one break. Most breaks count as a line feed. -/
def takeBreak (cursor : Cursor) : String × Cursor :=
  let nextLine := fun text length =>
    let skipped := octetCount (cursor.rest.take length)
    (text, ⟨cursor.rest.drop length, cursor.offset + skipped, cursor.line + 1, 0⟩)
  match cursor.rest with
  | '\r' :: '\n' :: _ => nextLine "\n" 2
  | '\r' :: _ | '\n' :: _ | '\u0085' :: _ => nextLine "\n" 1
  | '\u2028' :: _ => nextLine "\u2028" 1
  | '\u2029' :: _ => nextLine "\u2029" 1
  | _ => ("", cursor)

def skipBreak (cursor : Cursor) : Cursor :=
  cursor.takeBreak.2

/-- The class holds no break. -/
def takeWhile (cursor : Cursor) (inClass : Char → Bool) : List Char × Cursor :=
  let taken := cursor.rest.takeWhile inClass
  (taken, cursor.skip taken.length)

def skipWhile (cursor : Cursor) (inClass : Char → Bool) : Cursor :=
  (cursor.takeWhile inClass).2

/-- A byte order mark takes up a column like any other character. -/
def skipOrderMark (cursor : Cursor) : Cursor :=
  if cursor.column = 0 ∧ cursor.startsWith '\ufeff' then cursor.skip 1 else cursor

def skipSpacesAndTabs (cursor : Cursor) : Cursor :=
  cursor.skipWhile Text.isSpaceOrTab

def skipToLineEnd (cursor : Cursor) : Cursor :=
  cursor.skipWhile fun character => !isBreak character

def skipComment (cursor : Cursor) : Cursor :=
  if cursor.startsWith '#' then cursor.skipToLineEnd else cursor

/-- Three of the characters at the beginning of a line, and then a gap, divide documents. -/
def atDivider (cursor : Cursor) (character : Char) : Bool :=
  cursor.column == 0 && cursor.rest.take 3 == [character, character, character]
    && endsWord (cursor.ahead? 3)

def atAnyDivider (cursor : Cursor) : Bool :=
  cursor.atDivider '-' || cursor.atDivider '.'

end Cursor
end HostTree.Yaml
