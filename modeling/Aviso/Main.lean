import Aviso.CommandLine.Run
import Aviso.CommandLine.Stamp
import Std.Time.DateTime.Timestamp

/-!
# The program

Reads the arguments, the directory of templates, the clock and random bits, and
prints what the run answers.
-/

namespace Aviso.CommandLine

/-- What a directory holds.  A file that cannot be read is left out. -/
def readListing (directory : String) : IO Listing := do
  let path := (← IO.currentDir) / directory
  if !(← path.pathExists) then return .missing
  if !(← path.isDir) then return .notDirectory
  let mut entries := []
  for found in ← path.readDir do
    let child := path / found.fileName
    if ← child.isDir then
      entries := (found.fileName, Entry.directory) :: entries
    else
      try
        let content ← IO.FS.readBinFile child
        entries := (found.fileName, Entry.file content) :: entries
      catch _ => pure ()
  return .entries entries

/-- A stamp of the present moment. -/
def takeStamp : IO Stamp := do
  let now ← Std.Time.Timestamp.now
  let bytes ← IO.getRandomBytes 16
  let random := bytes.toList.foldl (fun (value : Nat) byte => value * 256 + byte.toNat) 0
  return {
    id := identifierText random
    renderedAt := timeText now.toNanosecondsSinceUnixEpoch.val.toNat }

/-- Runs the command line and returns its exit code. -/
def execute (arguments : List String) : IO UInt32 := do
  let listing ← match Invocation.parse arguments with
    | .error error =>
      IO.eprintln ("error: " ++ error.message)
      pure .missing
    | .ok invocation => readListing invocation.directory
  let ending := run (fun _ => listing) (← takeStamp) arguments
  IO.print ending.output
  return ending.exitCode.toUInt32

end Aviso.CommandLine

def main (arguments : List String) : IO UInt32 :=
  Aviso.CommandLine.execute arguments
