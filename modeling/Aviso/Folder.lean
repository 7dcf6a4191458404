import Aviso.Catalogue

/-!
# Directory trees in memory

A folder is a snapshot of a directory tree, made by writing files in turn.
`Folder.listing` says what stands at a path, so a catalogue can be loaded from a
snapshot as from a real directory.
-/

namespace Aviso

/-- What was written under each path, a path being the names that lead to it. -/
structure Folder where
  written : List (List String × Entry) := []

namespace Folder

/-- The names of a path; empty ones and `.` stay where they are. -/
def names (path : String) : List String :=
  (path.splitOn "/").filter fun name => name != "" && name != "."

/-- The folder with an entry at a path, in place of any other there. -/
def write (folder : Folder) (path : String) (entry : Entry) : Folder :=
  let path := names path
  { written := folder.written.filter (fun other => other.1 != path) ++ [(path, entry)] }

/-- What stands at a path of names.  A directory is there as soon as something
stands in it. -/
def entry? (folder : Folder) (path : List String) : Option Entry :=
  match folder.written.lookup path with
  | some entry => some entry
  | none =>
    if path.isEmpty || folder.written.any fun other => path.isPrefixOf other.1 then some .directory
    else none

/-- Follows the steps of a path from a directory; only a directory can be stepped
into or out of, and never out of the folder itself. -/
def walk? (folder : Folder) (path : List String) : List String → Option (List String)
  | [] => some path
  | step :: steps =>
    match folder.entry? path with
    | some .directory =>
      if step == "" || step == "." then walk? folder path steps
      else if step == ".." then
        if path.isEmpty then none else walk? folder path.dropLast steps
      else walk? folder (path ++ [step]) steps
    | _ => none

/-- What the directory at a path of names holds. -/
def children (folder : Folder) (path : List String) : List (String × Entry) :=
  let names := folder.written.filterMap fun other =>
    if path.isPrefixOf other.1 then other.1[path.length]? else none
  names.eraseDups.filterMap fun name =>
    (folder.entry? (path ++ [name])).map fun entry => (name, entry)

/-- What is found at a path; nothing is found outside the folder. -/
def listing (folder : Folder) (path : String) : Listing :=
  if path.startsWith "/" then .missing
  else
    match folder.walk? [] (path.splitOn "/") with
    | none => .missing
    | some path =>
      match folder.entry? path with
      | none => .missing
      | some (.file _) => .notDirectory
      | some .directory => .entries (folder.children path)

end Folder

end Aviso
