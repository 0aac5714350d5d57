/-
This file reads the strings of TOML.
-/

import HostTree.Text.Blank
import HostTree.Text.Hexadecimal

namespace HostTree.Toml

open Text (isSpaceOrTab)

/-- Control characters other than the tab do not stand in strings and comments. -/
def isPlain (character : Char) : Bool :=
  character == '\t' || (0x20 ≤ character.toNat && character.toNat != 0x7f)

def skipSpaces (text : List Char) : List Char :=
  text.dropWhile isSpaceOrTab

/-- A carriage return is part of a line end and nothing else. -/
def lineEnd? : List Char → Option (List Char × List Char)
  | '\n' :: rest => some (['\n'], rest)
  | '\r' :: '\n' :: rest => some (['\r', '\n'], rest)
  | _ => none

def skipFirstLineEnd (text : List Char) : List Char :=
  match lineEnd? text with
  | some (_, rest) => rest
  | none => text

def skipLineEnds : Nat → List Char → List Char
  | 0, text => text
  | fuel + 1, text =>
    match lineEnd? (skipSpaces text) with
    | some (_, rest) => skipLineEnds fuel rest
    | none => skipSpaces text

def escaped? : Char → Option Char
  | 'b' => some '\x08'
  | 't' => some '\t'
  | 'n' => some '\n'
  | 'f' => some '\x0c'
  | 'r' => some '\r'
  | 'e' => some '\x1b'
  | '"' => some '"'
  | '\\' => some '\\'
  | _ => none

def codeLength? : Char → Option Nat
  | 'x' => some 2
  | 'u' => some 4
  | 'U' => some 8
  | _ => none

/-- The text is behind the backslash. -/
def readEscape : List Char → Option (Char × List Char)
  | [] => none
  | letter :: rest =>
    match escaped? letter with
    | some character => some (character, rest)
    | none => do
      Text.takeCode? (← codeLength? letter) rest

/-- The text is behind the opening quote. -/
def readBasic : Nat → String → List Char → Option (String × List Char)
  | 0, _, _ => none
  | _ + 1, _, [] => none
  | _ + 1, content, '"' :: rest => some (content, rest)
  | fuel + 1, content, '\\' :: rest => do
    let (character, next) ← readEscape rest
    readBasic fuel (content.push character) next
  | fuel + 1, content, character :: rest =>
    if isPlain character then readBasic fuel (content.push character) rest else none

def readLiteral : String → List Char → Option (String × List Char)
  | _, [] => none
  | content, '\'' :: rest => some (content, rest)
  | content, character :: rest =>
    if isPlain character then readLiteral (content.push character) rest else none

/-- Up to two quotes before the closing three belong to the string. -/
def closeLines (quote : Char) (content : String) (rest : List Char) : String × List Char :=
  let extra := ((rest.take 2).takeWhile (· == quote)).length
  (content ++ String.ofList (List.replicate extra quote), rest.drop extra)

/-- The text is behind the three opening quotes and a first line end. A backslash before a line end
skips all blanks and line ends. -/
def readBasicLines : Nat → String → List Char → Option (String × List Char)
  | 0, _, _ => none
  | _ + 1, content, '"' :: '"' :: '"' :: rest => some (closeLines '"' content rest)
  | fuel + 1, content, '\\' :: rest =>
    match lineEnd? (skipSpaces rest) with
    | some (_, next) => readBasicLines fuel content (skipLineEnds (next.length + 1) next)
    | none => do
      let (character, next) ← readEscape rest
      readBasicLines fuel (content.push character) next
  | fuel + 1, content, text =>
    match lineEnd? text with
    | some (lineEnd, rest) => readBasicLines fuel (content ++ String.ofList lineEnd) rest
    | none =>
      match text with
      | [] => none
      | character :: rest =>
        if isPlain character then readBasicLines fuel (content.push character) rest else none

def readLiteralLines : Nat → String → List Char → Option (String × List Char)
  | 0, _, _ => none
  | _ + 1, content, '\'' :: '\'' :: '\'' :: rest => some (closeLines '\'' content rest)
  | fuel + 1, content, text =>
    match lineEnd? text with
    | some (lineEnd, rest) => readLiteralLines fuel (content ++ String.ofList lineEnd) rest
    | none =>
      match text with
      | [] => none
      | character :: rest =>
        if isPlain character then readLiteralLines fuel (content.push character) rest else none

/-- A string on one line stands between single quotes, and one on several lines between three. -/
def readString (text : List Char) : Option (String × List Char) :=
  match text with
  | '"' :: '"' :: '"' :: rest => readBasicLines (text.length + 1) "" (skipFirstLineEnd rest)
  | '\'' :: '\'' :: '\'' :: rest => readLiteralLines (text.length + 1) "" (skipFirstLineEnd rest)
  | '"' :: rest => readBasic (text.length + 1) "" rest
  | '\'' :: rest => readLiteral "" rest
  | _ => none

end HostTree.Toml
