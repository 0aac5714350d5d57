/-
This file says what the program needs from a file system.
-/

namespace HostTree

/-- A text that cannot be read is absent. The directories of a path are made where they are missing,
and the answers of the last two operations say whether they worked. -/
class FileAccess (m : Type → Type) where
  isFile : String → m Bool
  readText : String → m (Option String)
  makeDirectories : String → m Bool
  writeText : String → String → m Bool

end HostTree
