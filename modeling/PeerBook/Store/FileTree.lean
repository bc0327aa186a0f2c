/-!
# File trees

A file tree is a directory with files and directories below it, kept as the entry of every
path. Paths are lists of names below the root; the root itself is a directory and has a name of
its own, the absolute path by which messages show it.

The operations follow the rules of a POSIX file system. Opening a path whose ancestor is a file
fails with "not a directory", and one whose ancestor or itself is missing with "no such file or
directory". Reading a directory fails with "is a directory". Making a directory with all its
ancestors stops at the first ancestor that is a file. Renaming onto a directory fails with
"file exists".
-/

namespace PeerBook.Store

/-- A path below the root of a file tree: its names, outermost first. -/
abbrev Path := List String

/-- What a path of a file tree holds. -/
inductive Entry where
  | file (bytes : List UInt8)
  | directory
  deriving DecidableEq, Repr

/-- Why an operation on a file tree failed. -/
inductive Errno where
  | notFound
  | notDirectory
  | isDirectory
  | alreadyExists
  deriving DecidableEq, Repr

/-- The text of a failure. -/
def Errno.text : Errno → String
  | .notFound => "no such file or directory"
  | .notDirectory => "not a directory"
  | .isDirectory => "is a directory"
  | .alreadyExists => "file exists"

/-- A failed operation: on one path, on two paths for a rename, or on a path outside the tree,
which holds nothing. -/
inductive FileError where
  | onPath (operation : String) (path : Path) (errno : Errno)
  | onLink (operation : String) (source target : Path) (errno : Errno)
  | elsewhere (operation : String) (path : String) (errno : Errno)
  deriving DecidableEq, Repr

/-- Whether a failure says that a path does not exist. -/
def FileError.isNotFound : FileError → Bool
  | .onPath _ _ errno | .onLink _ _ _ errno | .elsewhere _ _ errno => errno == .notFound

/-- A directory with its contents. -/
structure FileTree where
  /-- The name by which the root directory is shown. -/
  root : String
  /-- The entry of every path below the root. -/
  entries : List (Path × Entry) := []
  deriving DecidableEq, Repr

namespace FileTree

/-- The absolute text of a path of the tree. -/
def render (tree : FileTree) (path : Path) : String :=
  "/".intercalate (tree.root :: path)

/-- The message of a failure, with paths shown from the root. -/
def message (tree : FileTree) : FileError → String
  | .onPath operation path errno =>
    operation ++ " " ++ tree.render path ++ ": " ++ errno.text
  | .onLink operation source target errno =>
    operation ++ " " ++ tree.render source ++ " " ++ tree.render target ++ ": " ++ errno.text
  | .elsewhere operation path errno => operation ++ " " ++ path ++ ": " ++ errno.text

/-- The entry at a path; the root is a directory. -/
def find? (tree : FileTree) (path : Path) : Option Entry :=
  if path.isEmpty then some .directory else tree.entries.lookup path

/-- The paths of the directories that hold a path, outermost first, the root left out. -/
def ancestors (path : Path) : List Path :=
  (List.range (path.length - 1)).map fun count => path.take (count + 1)

/-- Walks to a path: fails when an ancestor is a file or missing, else gives what is there. -/
def reach (tree : FileTree) (path : Path) : Except Errno (Option Entry) := do
  for ancestor in ancestors path do
    match tree.find? ancestor with
    | some .directory => pure ()
    | some (.file _) => throw .notDirectory
    | none => throw .notFound
  return tree.find? path

/-- The path of the tree that an absolute text names, if it lies in the tree. -/
def locate? (tree : FileTree) (text : String) : Option Path :=
  if text == tree.root then some []
  else if text.startsWith (tree.root ++ "/") then
    some (((text.drop (tree.root.length + 1)).toString.splitOn "/").filter (!·.isEmpty))
  else none

/-- The tree with an entry set at a path. -/
def put (tree : FileTree) (path : Path) (entry : Entry) : FileTree :=
  { tree with entries := (tree.entries.filter (·.1 != path)) ++ [(path, entry)] }

/-- The tree without the entry of a path. -/
def remove (tree : FileTree) (path : Path) : FileTree :=
  { tree with entries := tree.entries.filter (·.1 != path) }

/-- The bytes of a file. -/
def read (tree : FileTree) (path : Path) : Except FileError (List UInt8) :=
  match tree.reach path with
  | .error errno => .error (.onPath "open" path errno)
  | .ok none => .error (.onPath "open" path .notFound)
  | .ok (some .directory) => .error (.onPath "read" path .isDirectory)
  | .ok (some (.file bytes)) => .ok bytes

/-- Makes a directory and every missing ancestor; an ancestor or the path itself that is a
file stops it. -/
def makeDirectories (tree : FileTree) (path : Path) : Except FileError FileTree :=
  (ancestors path ++ (if path.isEmpty then [] else [path])).foldlM (fun tree directory =>
    match tree.find? directory with
    | some .directory => .ok tree
    | some (.file _) => .error (.onPath "mkdir" directory .notDirectory)
    | none => .ok (tree.put directory .directory)) tree

/-- Creates a file, or empties one, and writes bytes to it. -/
def write (tree : FileTree) (path : Path) (bytes : List UInt8) : Except FileError FileTree :=
  match tree.reach path with
  | .error errno => .error (.onPath "open" path errno)
  | .ok (some .directory) => .error (.onPath "open" path .isDirectory)
  | .ok _ => .ok (tree.put path (.file bytes))

/-- Appends bytes to a file, creating it when missing. -/
def append (tree : FileTree) (path : Path) (bytes : List UInt8) : Except FileError FileTree :=
  match tree.reach path with
  | .error errno => .error (.onPath "open" path errno)
  | .ok (some .directory) => .error (.onPath "open" path .isDirectory)
  | .ok (some (.file old)) => .ok (tree.put path (.file (old ++ bytes)))
  | .ok none => .ok (tree.put path (.file bytes))

/-- Moves a file to another path, replacing a file there; a directory there is refused. -/
def rename (tree : FileTree) (source target : Path) : Except FileError FileTree :=
  match tree.reach target with
  | .error errno => .error (.onLink "rename" source target errno)
  | .ok (some .directory) => .error (.onLink "rename" source target .alreadyExists)
  | .ok _ =>
    match tree.find? source with
    | some entry => .ok ((tree.remove source).put target entry)
    | none => .error (.onLink "rename" source target .notFound)

/-- The paths below a directory of the tree, relative to it, directories with a final `/`,
sorted. -/
def listingUnder (tree : FileTree) (base : Path) : List String :=
  let names := tree.entries.filterMap fun (path, entry) =>
    if base.isPrefixOf path && base.length < path.length then
      some ("/".intercalate (path.drop base.length) ++ (if entry == .directory then "/" else ""))
    else none
  names.mergeSort fun first second => !(second < first)

/-- The paths of the tree, relative to the root, directories with a final `/`, sorted. -/
def listing (tree : FileTree) : List String := tree.listingUnder []

end FileTree

end PeerBook.Store
