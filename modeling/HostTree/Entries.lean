/-
This file holds lists of entries with text keys, where the order of the keys is kept.
-/

import HostTree.Text.Case

namespace HostTree.Entries

variable {Content : Type}

/-- An entry whose key is present replaces the old one at its place. -/
def insert (key : String) (content : Content) :
    List (String × Content) → List (String × Content)
  | [] => [(key, content)]
  | entry :: rest =>
    if entry.1 = key then (entry.1, content) :: rest
    else entry :: insert key content rest

def get? (key : String) (entries : List (String × Content)) : Option Content :=
  (entries.find? fun entry => entry.1 == key).map Prod.snd

/-- The first entry wins when several keys differ only in case. -/
def getFolded? (key : String) (entries : List (String × Content)) : Option Content :=
  (entries.find? fun entry => Text.sameFolded entry.1 key).map Prod.snd

/-- Each key keeps its first place and its last content. -/
def ofList (entries : List (String × Content)) : List (String × Content) :=
  entries.foldl (fun collected entry => insert entry.1 entry.2 collected) []

def Distinct (entries : List (String × Content)) : Prop :=
  (entries.map Prod.fst).Nodup

end HostTree.Entries
