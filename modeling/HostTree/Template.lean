/-
This file reads templates and puts loop items into them.
-/

import HostTree.Failure
import HostTree.Value

namespace HostTree

namespace Template

inductive Segment where
  | literal (character : Char)
  | placeholder (name : List Char)
  deriving DecidableEq, Repr

/-- A reader is either between segments or inside a placeholder, whose opening brace stands at a
byte offset and whose name so far is kept in reverse. -/
inductive Position where
  | outside
  | inside (opening : Nat) (reversedName : List Char)

/-- A doubled brace is a literal one, and a name between single braces is a placeholder. Any other
brace is unbalanced. -/
def readFrom (offset : Nat) : Position → List Char → Except TemplateFlaw (List Segment)
  | .outside, [] => .ok []
  | .outside, '{' :: '{' :: rest =>
    (readFrom (offset + 2) .outside rest).map (.literal '{' :: ·)
  | .outside, '}' :: '}' :: rest =>
    (readFrom (offset + 2) .outside rest).map (.literal '}' :: ·)
  | .outside, '{' :: rest => readFrom (offset + 1) (.inside offset []) rest
  | .outside, '}' :: _ => .error (.unbalanced '}' offset)
  | .outside, character :: rest =>
    (readFrom (offset + character.utf8Size) .outside rest).map (.literal character :: ·)
  | .inside _ reversedName, '}' :: rest =>
    (readFrom (offset + 1) .outside rest).map (.placeholder reversedName.reverse :: ·)
  | .inside opening _, '{' :: _ => .error (.unbalanced '{' opening)
  | .inside opening _, [] => .error (.unbalanced '{' opening)
  | .inside opening reversedName, character :: rest =>
    readFrom (offset + character.utf8Size) (.inside opening (character :: reversedName)) rest
termination_by structural _ text => text

def read (text : List Char) : Except TemplateFlaw (List Segment) :=
  readFrom 0 .outside text

/-- The braces of a literal text are doubled. -/
def escape (text : List Char) : List Char :=
  text.flatMap fun character =>
    if character = '{' ∨ character = '}' then [character, character] else [character]

def write (segments : List Segment) : List Char :=
  segments.flatMap fun
    | .literal character => escape [character]
    | .placeholder name => '{' :: name ++ ['}']

/-- The first placeholder without an answer is the failure. -/
def fill (answer : String → Option String) : List Segment → Except TemplateFlaw (List Char)
  | [] => .ok []
  | .literal character :: rest => (fill answer rest).map (character :: ·)
  | .placeholder name :: rest =>
    match answer (String.ofList name) with
    | none => .error (.unknownPlaceholder (String.ofList name))
    | some text => (fill answer rest).map (text.toList ++ ·)

def itemName : String :=
  "item"

/-- The name after the item and a point is the key of an entry. -/
def dottedKey? (name : String) : Option String :=
  match name.toList with
  | 'i' :: 't' :: 'e' :: 'm' :: '.' :: key => some (String.ofList key)
  | _ => none

def answerWhole (item : Value) (name : String) : Option String :=
  if name = itemName then some item.text else none

def answerFlat (entries : List (String × Value)) (name : String) : Option String :=
  (Entries.get? name entries).map Value.text

def answerDotted (entries : List (String × Value)) (name : String) : Option String :=
  match dottedKey? name with
  | some key => answerFlat entries key
  | none => answerWhole (.mapping entries) name

/-- The keys of a mapping are tried as names for the whole template before the dotted names are. -/
def fillItem (item : Value) (segments : List Segment) : Except TemplateFlaw (List Char) :=
  match item with
  | .mapping entries =>
    match fill (answerFlat entries) segments with
    | .ok text => .ok text
    | .error _ => fill (answerDotted entries) segments
  | _ => fill (answerWhole item) segments

/-- A template without an item stays as it is. -/
def resolve (template : String) : Option Value → Except Failure String
  | none => .ok template
  | some item =>
    match read template.toList >>= fillItem item with
    | .ok text => .ok (String.ofList text)
    | .error flaw => .error (.malformedTemplate template flaw)

/-- Only a string is a template. The text of any other value stays as it is. -/
def resolveValue (content : Value) (item : Option Value) : Except Failure String :=
  match content with
  | .string template => resolve template item
  | _ => .ok content.text

end Template
end HostTree
