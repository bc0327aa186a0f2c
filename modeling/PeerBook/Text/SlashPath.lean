/-!
# Slash-separated paths

The lexical rules for paths whose names are separated by `/`. A path is absolute when it starts
with `/`. Cleaning gives the shortest path that names the same file by these rules alone:
repeated separators become one, `.` names are dropped, a `..` name removes the name before it,
a `..` at the start of an absolute path is dropped, and nothing left is `.` (or `/` for an
absolute path). Joining puts `/` between the non-empty parts and cleans the result; no
non-empty part gives the empty path.
-/

namespace PeerBook.SlashPath

/-- Whether a path is absolute. -/
def isAbsolute (path : String) : Bool := path.startsWith "/"

/-- Adds one name to the names kept so far, last name first. -/
def pushName (absolute : Bool) (kept : List String) (name : String) : List String :=
  match name, kept with
  | "", _ | ".", _ => kept
  | "..", [] => if absolute then [] else [".."]
  | "..", ".." :: rest => ".." :: ".." :: rest
  | "..", _ :: rest => rest
  | name, _ => name :: kept

/-- The cleaned form of a path. -/
def clean (path : String) : String :=
  let absolute := isAbsolute path
  let names := ((path.splitOn "/").foldl (pushName absolute) []).reverse
  let body := "/".intercalate names
  if absolute then "/" ++ body
  else if body.isEmpty then "." else body

/-- The parts joined by `/` and cleaned; empty parts are left out. -/
def join (parts : List String) : String :=
  match parts.filter (!·.isEmpty) with
  | [] => ""
  | kept => clean ("/".intercalate kept)

end PeerBook.SlashPath
