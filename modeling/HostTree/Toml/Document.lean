/-
This file gives the documents of TOML their values.
-/

import HostTree.Toml.Moment
import HostTree.Toml.Number
import HostTree.Toml.Table
import HostTree.Toml.Text

namespace HostTree.Toml

/-- Spaces, line ends and comments between the items of a list do not count. -/
def skipFiller : Nat → List Char → List Char
  | 0, text => text
  | fuel + 1, text =>
    let start := skipSpaces text
    let lineText := match start with
      | '#' :: comment => comment.dropWhile isPlain
      | _ => start
    match lineEnd? lineText with
    | some (_, rest) => skipFiller fuel rest
    | none => lineText

/-- The line may have a comment and nothing else. -/
def finishLine (text : List Char) : Option (List Char) :=
  let lineText := match skipSpaces text with
    | '#' :: comment => comment.dropWhile isPlain
    | start => start
  match lineText with
  | [] => some []
  | _ => (lineEnd? lineText).map Prod.snd

def isBareCharacter (character : Char) : Bool :=
  character.isAlphanum || character == '_' || character == '-'

/-- A quoted part stands on one line. -/
def readKeyPart (text : List Char) : Option (String × List Char) :=
  match text with
  | '"' :: rest => readBasic (text.length + 1) "" rest
  | '\'' :: rest => readLiteral "" rest
  | _ =>
    let bare := text.takeWhile isBareCharacter
    if bare.isEmpty then none else some (String.ofList bare, text.dropWhile isBareCharacter)

/-- Points stand between the parts, and spaces around each part do not count. -/
def readKey : Nat → List Char → Option (List String × List Char)
  | 0, _ => none
  | fuel + 1, text => do
    let (part, afterPart) ← readKeyPart (skipSpaces text)
    match skipSpaces afterPart with
    | '.' :: rest =>
      let (parts, next) ← readKey fuel rest
      some (part :: parts, next)
    | next => some ([part], next)

def isWordCharacter (character : Char) : Bool :=
  !([' ', '\t', '\r', '\n', ',', '=', '[', ']', '{', '}', '#'].contains character)

/-- The space between a date and a time belongs to the word. -/
def takeWord (text : List Char) : List Char × List Char :=
  let word := text.takeWhile isWordCharacter
  let rest := text.dropWhile isWordCharacter
  match Moment.takeDate word, rest with
  | some (_, []), ' ' :: digit :: after =>
    if digit.isDigit then
      (word ++ ' ' :: (digit :: after).takeWhile isWordCharacter,
        (digit :: after).dropWhile isWordCharacter)
    else (word, rest)
  | _, _ => (word, rest)

def wordValue? (word : List Char) : Option Value :=
  if word = ['t', 'r', 'u', 'e'] then some (.boolean true)
  else if word = ['f', 'a', 'l', 's', 'e'] then some (.boolean false)
  else integer? word <|> float? word <|> (Moment.parse? word).map Moment.toValue

/-- Lists and tables within values are nested no deeper than this. -/
def greatestDepth : Nat :=
  80

mutual

def readValue (depth : Nat) : Nat → List Char → Option (Value × List Char)
  | 0, _ => none
  | fuel + 1, text =>
    match text with
    | '"' :: _ | '\'' :: _ =>
      (readString text).map fun (content, rest) => (.string content, rest)
    | '[' :: rest =>
      if depth = 0 then none
      else do
        let (items, next) ← readItems (depth - 1) fuel (skipFiller (rest.length + 1) rest)
        some (.sequence items, next)
    | '{' :: rest =>
      if depth = 0 then none
      else do
        let (table, next) ←
          readPairs (depth - 1) (Table.empty .defined) fuel (skipFiller (rest.length + 1) rest)
        some (table.toValue, next)
    | _ => do
      let (word, rest) := takeWord text
      some (← wordValue? word, rest)
termination_by structural fuel => fuel

/-- A comma may stand after the last item. -/
def readItems (depth : Nat) : Nat → List Char → Option (List Value × List Char)
  | 0, _ => none
  | _ + 1, ']' :: rest => some ([], rest)
  | fuel + 1, text => do
    let (item, afterItem) ← readValue depth fuel text
    match skipFiller (afterItem.length + 1) afterItem with
    | ']' :: rest => some ([item], rest)
    | ',' :: rest =>
      let (items, next) ← readItems depth fuel (skipFiller (rest.length + 1) rest)
      some (item :: items, next)
    | _ => none
termination_by structural fuel => fuel

/-- Fillers may stand around each equals sign, and a comma may stand after the last pair. -/
def readPairs (depth : Nat) (table : Table) : Nat → List Char → Option (Table × List Char)
  | 0, _ => none
  | _ + 1, '}' :: rest => some (table, rest)
  | fuel + 1, text => do
    let (key, content, afterPair) ←
      readPair (fun start => skipFiller (start.length + 1) start) depth fuel text
    let longer ← table.assign key.dropLast (← key.getLast?) content
    match skipFiller (afterPair.length + 1) afterPair with
    | '}' :: rest => some (longer, rest)
    | ',' :: rest => readPairs depth longer fuel (skipFiller (rest.length + 1) rest)
    | _ => none
termination_by structural fuel => fuel

/-- What may stand between the key, the equals sign and the value is skipped in the given way. -/
def readPair (skip : List Char → List Char) (depth : Nat) :
    Nat → List Char → Option (List String × Value × List Char)
  | 0, _ => none
  | fuel + 1, text => do
    let (key, afterKey) ← readKey (text.length + 1) text
    match skip afterKey with
    | '=' :: rest =>
      let (content, next) ← readValue depth fuel (skip rest)
      some (key, content, next)
    | _ => none
termination_by structural fuel => fuel

end

/-- The pairs of a document go to the table of the header before them. -/
structure Progress where
  root : Table := Table.empty .defined
  header : List String := []

def Progress.assign (progress : Progress) (key : List String) (content : Value) :
    Option Progress := do
  let last ← key.getLast?
  let root ← progress.root.changeAt .passed (·.assign key.dropLast last content) progress.header
  return { progress with root := root }

def Progress.open (progress : Progress) (isElement : Bool) (key : List String) :
    Option Progress := do
  let last ← key.getLast?
  let root ←
    if isElement then progress.root.defineElement key.dropLast last
    else progress.root.define key.dropLast last
  return ⟨root, key⟩

/-- A header of an element has double brackets without a space between them. -/
def readStatement (progress : Progress) (text : List Char) : Option (Progress × List Char) :=
  match text with
  | '[' :: '[' :: rest => do
    match ← readKey (rest.length + 1) rest with
    | (key, ']' :: ']' :: next) => return (← progress.open true key, next)
    | _ => none
  | '[' :: rest => do
    match ← readKey (rest.length + 1) rest with
    | (key, ']' :: next) => return (← progress.open false key, next)
    | _ => none
  | _ => do
    let (key, content, next) ← readPair skipSpaces greatestDepth (4 * text.length + 4) text
    return (← progress.assign key content, next)

def readLines (progress : Progress) : Nat → List Char → Option Table
  | 0, _ => none
  | fuel + 1, text =>
    match skipFiller (text.length + 1) text with
    | [] => some progress.root
    | start => do
      let (next, rest) ← readStatement progress start
      readLines next fuel (← finishLine rest)

/-- A byte order mark at the beginning is not part of the text. -/
def parse? (text : String) : Option Value :=
  let characters := match text.toList with
    | '\ufeff' :: rest => rest
    | whole => whole
  (readLines {} (characters.length + 1) characters).map Table.toValue

end HostTree.Toml
