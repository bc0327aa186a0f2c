import PeerBook.Store.FileTree
import PeerBook.Store.KeyValue
import PeerBook.Text.Quoted
import PeerBook.Text.SlashPath

/-!
# The machine a node runs on

A node sees a home directory, the file tree of its data directory, the databases kept in
directories of that tree, and a free port for a listener that asks for any port. Paths outside
the tree hold nothing.

Opening a database in a directory makes the directory when it is missing (a file on its path
makes it an invalid directory), then writes a lock file into it, and gives the entries the
database held when it was last closed there.
-/

namespace PeerBook

open Store

/-- What a node finds on its machine. -/
structure Machine where
  /-- The home directory, for paths starting with `~`. -/
  home : String
  /-- The files of the data directory. -/
  tree : FileTree
  /-- The databases kept in directories of the tree. -/
  databases : List (Path × KeyValueStore) := []
  /-- The port a listener that asks for any port gets. -/
  freePort : Nat
  deriving DecidableEq, Repr

/-- Why a database cannot be opened in a directory. -/
inductive DatabaseError where
  | invalidDir (path : String) (error : FileError)
  | createDir (path : String) (error : FileError)
  | lockFile (path : String) (error : FileError)
  deriving DecidableEq, Repr

/-- The message of a database that cannot be opened. -/
def DatabaseError.message (tree : FileTree) : DatabaseError → String
  | .invalidDir path error => "Invalid Dir: " ++ Text.quote path ++ " error: " ++ tree.message error
  | .createDir path error =>
    "Error Creating Dir: " ++ Text.quote path ++ " error: " ++ tree.message error
  | .lockFile path error =>
    "Cannot write pid file " ++ Text.quote path ++ " error: " ++ tree.message error

namespace Machine

/-- A path with a leading `~` taken from the home directory. -/
def expandHome (machine : Machine) (path : String) : String :=
  if path.startsWith "~" && !machine.home.isEmpty then
    SlashPath.join [machine.home, (path.drop 1).toString]
  else path

/-- Opens a file for appending, creating it when missing. -/
def openForAppend (machine : Machine) (text : String) : Except FileError Machine :=
  match machine.tree.locate? text with
  | none => .error (.elsewhere "open" text .notFound)
  | some path => (machine.tree.append path []).map ({ machine with tree := · })

/-- Makes a directory with its ancestors. -/
def makeDirectories (machine : Machine) (text : String) : Except FileError Machine :=
  match machine.tree.locate? text with
  | none => .error (.elsewhere "mkdir" text .notFound)
  | some path => (machine.tree.makeDirectories path).map ({ machine with tree := · })

/-- The entries of the database last closed in a directory. -/
def database (machine : Machine) (path : Path) : KeyValueStore :=
  (machine.databases.lookup path).getD {}

/-- The machine with a database closed in a directory. -/
def keepDatabase (machine : Machine) (path : Path) (store : KeyValueStore) : Machine :=
  { machine with databases :=
      (machine.databases.filter (·.1 != path)) ++ [(path, store.withFaults "" "")] }

/-- Opens the database in a directory: the machine with the directory and lock file made, the
directory, and the database's entries. -/
def openDatabase (machine : Machine) (text : String) :
    Except DatabaseError (Machine × Path × KeyValueStore) := do
  let some path := machine.tree.locate? text
    | throw (.createDir text (.elsewhere "mkdir" text .notFound))
  let tree ← match machine.tree.reach path with
    | .error .notDirectory => throw (.invalidDir text (.onPath "stat" path .notDirectory))
    | .ok (some _) => pure machine.tree
    | _ => (machine.tree.makeDirectories path).mapError (.createDir text)
  let lock := path ++ ["LOCK"]
  let tree ← (tree.write lock []).mapError (.lockFile (text ++ "/LOCK"))
  return ({ machine with tree := tree }, path, machine.database path)

end Machine

end PeerBook
