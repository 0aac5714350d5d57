/-
This file holds the paths of files.
-/

import HostTree.Text.Case

namespace HostTree.Path

inductive Component where
  | root
  | current
  | above
  | named (name : List Char)
  deriving DecidableEq, Repr

/-- Separators cut a text into segments, one more than there are separators. -/
def segments : List Char → List (List Char)
  | [] => [[]]
  | '/' :: rest => [] :: segments rest
  | character :: rest =>
    match segments rest with
    | first :: others => (character :: first) :: others
    | [] => [[character]]

def ofSegments (parts : List (List Char)) : List Char :=
  ['/'].intercalate parts

/-- Such a segment does not lead anywhere else. -/
def isIdle (segment : List Char) : Bool :=
  segment == [] || segment == ['.']

def dropIdleEnd (parts : List (List Char)) : List (List Char) :=
  (parts.reverse.dropWhile isIdle).reverse

def componentOf (segment : List Char) : Component :=
  if segment = ['.', '.'] then .above else .named segment

def bodyComponents (parts : List (List Char)) : List Component :=
  (parts.filter fun segment => !isIdle segment).map componentOf

/-- Repeated and trailing separators and inner points are dropped. -/
def components (path : List Char) : List Component :=
  match segments path with
  | [] => []
  | first :: body =>
    if first = [] then
      if body.isEmpty then [] else .root :: bodyComponents body
    else if first = ['.'] then .current :: bodyComponents body
    else bodyComponents (first :: body)

/-- The parent of a path is written as its beginning is, without the last component. -/
def parent? (path : List Char) : Option (List Char) :=
  let shorter := fun body => ofSegments (dropIdleEnd (dropIdleEnd body).dropLast)
  match segments path with
  | [] => none
  | first :: body =>
    let inBody := body.any fun segment => !isIdle segment
    if first = [] then
      if inBody then some ('/' :: shorter body) else none
    else if first = ['.'] then
      if ¬ inBody then some []
      else if shorter body = [] then some first
      else some (first ++ '/' :: shorter body)
    else some (shorter (first :: body))

/-- A name that only begins with a point has no extension. -/
def nameExtension? (name : List Char) : Option (List Char) :=
  let reversed := name.reverse
  match reversed.dropWhile (· ≠ '.') with
  | '.' :: before => if before.isEmpty then none else some (reversed.takeWhile (· ≠ '.')).reverse
  | _ => none

def extension? (path : String) : Option String :=
  match (components path.toList).getLast? with
  | some (.named name) => (nameExtension? name).map String.ofList
  | _ => none

def isAbsolute (path : List Char) : Bool :=
  path.head? == some '/'

/-- An absolute path stands for itself wherever it is seen from. -/
def join (base path : List Char) : List Char :=
  if isAbsolute path then path
  else if base.isEmpty || base.getLast? == some '/' then base ++ path
  else base ++ '/' :: path

def joinText (base path : String) : String :=
  String.ofList (join base.toList path.toList)

/-- What follows the tilde is seen from the home directory, and other paths stay as they are. -/
def expandHome (path home : String) : String :=
  match segments path.toList with
  | ['~'] :: rest =>
    String.ofList (join home.toList (ofSegments ((dropIdleEnd rest).dropWhile isIdle)))
  | _ => path

end HostTree.Path
