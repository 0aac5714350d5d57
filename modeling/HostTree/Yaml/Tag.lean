/-
This file holds the tags of YAML and reads their octets.
-/

import HostTree.Text.Hexadecimal
import HostTree.Yaml.Character

namespace HostTree.Yaml

/-- A tag is known by its octets, which need not be text. -/
structure Tag where
  octets : List UInt8
  deriving DecidableEq, Repr

namespace Tag

def ofText (text : String) : Tag :=
  ⟨text.toList.flatMap String.utf8EncodeChar⟩

/-- The standard tags begin in the same way. -/
def standard (name : String) : Tag :=
  ofText ("tag:yaml.org,2002:" ++ name)

def append (beginning rest : Tag) : Tag :=
  ⟨beginning.octets ++ rest.octets⟩

/-- The first octet of a character says how many others follow it. -/
def followers? (octet : Nat) : Option Nat :=
  if octet < 0x80 then some 0
  else if octet < 0xc0 then none
  else if octet < 0xe0 then some 1
  else if octet < 0xf0 then some 2
  else if octet < 0xf8 then some 3
  else none

def isFollower (octet : Nat) : Bool :=
  0x80 ≤ octet && octet < 0xc0

/-- A percent sign and two hexadecimal digits stand for an octet. The number is that of the octets
which the present character still needs. -/
def octets? : Nat → List Char → Option (List UInt8)
  | 0, [] => some []
  | needed, '%' :: high :: low :: rest => do
    let octet := 16 * (← Text.hexDigit? high) + (← Text.hexDigit? low)
    let stillNeeded ←
      if needed = 0 then followers? octet
      else if isFollower octet then some (needed - 1)
      else none
    return octet.toUInt8 :: (← octets? stillNeeded rest)
  | 0, character :: rest =>
    if character = '%' then none
    else return String.utf8EncodeChar character ++ (← octets? 0 rest)
  | _ + 1, _ => none

/-- An octet of zero ends the tag, whatever is written behind it. -/
def decode? (text : List Char) : Option Tag :=
  (octets? 0 text).map fun octets => ⟨octets.takeWhile (· != 0)⟩

def isEmpty (tag : Tag) : Bool :=
  tag.octets.isEmpty

def isLocal (tag : Tag) : Bool :=
  tag.octets.head? == some '!'.toUInt8

def isText (tag : Tag) : Bool :=
  (String.fromUTF8? ⟨tag.octets.toArray⟩).isSome

/-- A local tag that is text has no meaning in any document. -/
def isRefused (tag : Tag) : Bool :=
  tag.isLocal && tag.isText

end Tag
end HostTree.Yaml
