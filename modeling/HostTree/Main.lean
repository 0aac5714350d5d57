/-
This file connects the commands with the file system and the terminal.
-/

import HostTree.Arguments
import Std.Time.DateTime.Timestamp

namespace HostTree

/-- A file that may not be read is still a file. -/
instance : FileAccess IO where
  isFile path := do
    try
      let _ ← IO.FS.readBinFile path
      return true
    catch
      | .permissionDenied .. => return true
      | _ => return false
  readText path := do
    try
      return String.fromUTF8? (← IO.FS.readBinFile path)
    catch _ => return none
  makeDirectories path := do
    try
      IO.FS.createDirAll path
      return true
    catch _ => return false
  writeText path text := do
    try
      IO.FS.writeFile path text
      return true
    catch _ => return false

def printReport (report : Report) : IO UInt32 := do
  for warning in report.warnings do
    IO.eprintln ("warning: " ++ warning.message)
  IO.print report.printed
  if let some trouble := report.trouble then
    IO.eprintln ("error: " ++ trouble.context ++ "\n\nCaused by:\n    " ++ trouble.cause.message)
  return report.exitCode.toUInt32

def currentInstant : IO Instant := do
  let timestamp ← Std.Time.Timestamp.now
  return { seconds := timestamp.toSecondsSinceUnixEpoch.val }

end HostTree

open HostTree

def main (arguments : List String) : IO UInt32 := do
  match Arguments.read arguments with
  | .misuse =>
    IO.eprintln Invocation.helpText
    return 2
  | .help =>
    IO.println Invocation.helpText
    return 0
  | .version =>
    IO.println Invocation.versionText
    return 0
  | .run request =>
    let home := (← IO.getEnv "HOME").filter (· != "")
    printReport (← request.run home (← currentInstant))
