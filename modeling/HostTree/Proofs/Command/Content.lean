/-
This file takes the header off the content of a written file.
-/

import HostTree.ConfigFile
import HostTree.Proofs.Value.Unbroken

namespace HostTree

open Text

namespace Calendar

end Calendar

namespace ConfigFile

/-- The first four rows tell where the file comes from, and the last one is empty. -/
def headerRows (sourcePath : String) (instant : Instant) : List String :=
  ["# Generated by edgar on " ++ Calendar.instantText instant, "#",
    "# Be aware that any manual change to it may be overwritten.", "# Source: " ++ sourcePath, ""]

/-- This is what stands behind four marked rows and an empty one. -/
def body? (content : String) : Option String :=
  match rows content with
  | first :: second :: third :: fourth :: [] :: body =>
    if [first, second, third, fourth].all fun row => row.head? == some '#' then
      some (String.ofList (['\n'].intercalate body))
    else none
  | _ => none

variable {sourcePath : String}

/-- The text is the rows of the header, each with a line break behind it, and then the trimmed body.
-/
theorem text_eq_foldr (body sourcePath : String) (instant : Instant) :
    text body sourcePath instant =
      (headerRows sourcePath instant).foldr (fun row rest => row ++ "\n" ++ rest)
        (trim body ++ "\n") := by
  -- A rewriting step would compare the literals character by character. Variables stand for them.
  have regroup {mark notice ending : String} (second : mark = "\n" ++ "#" ++ "\n")
      (third : notice = "# Be aware that any manual change to it may be overwritten." ++ "\n")
      (last : ending = "\n" ++ "" ++ "\n") :
      "# Generated by edgar on " ++ Calendar.instantText instant ++ mark ++ notice ++
        "# Source: " ++ sourcePath ++ ending ++ trim body ++ "\n" =
      (headerRows sourcePath instant).foldr (fun row rest => row ++ "\n" ++ rest)
        (trim body ++ "\n") := by
    subst second third last
    simp only [headerRows, List.foldr_cons, List.foldr_nil, String.append_assoc,
      -String.reduceAppend]
  exact regroup (by decide) (by decide) (by decide)

end ConfigFile
end HostTree
