import PeerBook.Store.FileTree
import PeerBook.Store.KeyValue

/-!
# Blobs

A blob is one byte string kept somewhere: loading gives the bytes last saved, or nothing when
none were ever saved, or a failure; saving replaces the bytes or fails.

A key blob keeps its bytes under one key of a key-value store; its failures name the key. A
file blob keeps them in one file of a file tree. Loading reads the file; a missing file or
directory on its path means nothing is saved. Saving makes the file's directory with its
ancestors, writes the bytes to a fresh temporary file beside it and renames that over the
file, so that the file always holds a whole save; a failed rename removes the temporary file.
A failed save gives no tree back: in a tree a file system can hold, it made no directory before
failing, so the tree it started from is the tree the file system keeps.
-/

namespace PeerBook.Store

/-- A place for one byte string. -/
class Blob (σ : Type) where
  /-- The bytes saved, `none` when nothing is saved, or why they cannot be read. -/
  load : σ → Except String (Option (List UInt8))
  /-- The place with the bytes saved, or why they cannot be. -/
  save : σ → List UInt8 → Except String σ

/-- A blob under one key of a key-value store. -/
structure KeyBlob where
  store : KeyValueStore
  key : String
  deriving DecidableEq, Repr

instance : Blob KeyBlob where
  load blob := match blob.store.get blob.key with
    | .ok bytes => .ok bytes
    | .error fault => .error ("load " ++ blob.key ++ ": " ++ fault)
  save blob bytes := match blob.store.put blob.key bytes with
    | .ok store => .ok { blob with store := store }
    | .error fault => .error ("save " ++ blob.key ++ ": " ++ fault)

/-- A blob in one file of a file tree. -/
structure FileBlob where
  tree : FileTree
  path : Path
  deriving DecidableEq, Repr

namespace FileBlob

/-- The directory that holds the file. -/
def directory (blob : FileBlob) : Path := blob.path.dropLast

/-- The temporary file of a save: the file's name, `.tmp-` and the least number not taken. -/
def temporary (blob : FileBlob) : Path :=
  let name := blob.path.getLastD ""
  let candidate (number : Nat) : Path := blob.directory ++ [name ++ ".tmp-" ++ toString number]
  let free := (List.range (blob.tree.entries.length + 1)).find? fun number =>
    (blob.tree.find? (candidate (number + 1))).isNone
  candidate (free.getD 0 + 1)

/-- Reads the file: its bytes, nothing when it is missing, or the failure. -/
def load (blob : FileBlob) : Except String (Option (List UInt8)) :=
  match blob.tree.read blob.path with
  | .ok bytes => .ok (some bytes)
  | .error error =>
    if error.isNotFound then .ok none
    else .error ("read " ++ blob.tree.render blob.path ++ ": " ++ blob.tree.message error)

/-- Writes the file through a temporary file renamed over it. -/
def save (blob : FileBlob) (bytes : List UInt8) : Except String FileBlob := do
  let tree ← match blob.tree.makeDirectories blob.directory with
    | .ok tree => pure tree
    | .error error => throw ("create dir " ++ blob.tree.render blob.directory ++ ": " ++
        blob.tree.message error)
  let temporary := { blob with tree := tree }.temporary
  let written ← match tree.write temporary bytes with
    | .ok written => pure written
    | .error error => throw ("write " ++ tree.render temporary ++ ": " ++ tree.message error)
  match written.rename temporary blob.path with
  | .ok renamed => return { blob with tree := renamed }
  | .error error => throw ("rename to " ++ tree.render blob.path ++ ": " ++ tree.message error)

end FileBlob

instance : Blob FileBlob where
  load := FileBlob.load
  save := FileBlob.save

/-- A blob of either kind. -/
inductive Backend where
  | keyed (blob : KeyBlob)
  | inFile (blob : FileBlob)
  deriving DecidableEq, Repr

instance : Blob Backend where
  load
    | .keyed blob => Blob.load blob
    | .inFile blob => Blob.load blob
  save
    | .keyed blob, bytes => (Blob.save blob bytes).map .keyed
    | .inFile blob, bytes => (Blob.save blob bytes).map .inFile

namespace Backend

/-- The bytes held, read past any failure; `none` when nothing is held. -/
def held? : Backend → Option (List UInt8)
  | .keyed blob => blob.store.stored? blob.key
  | .inFile blob => match blob.tree.find? blob.path with
    | some (.file bytes) => some bytes
    | _ => none

/-- The backend with its bytes set directly, past any failure, the file's directory made when
missing; a path that cannot hold a file is left as it is. -/
def overwrite : Backend → List UInt8 → Backend
  | .keyed blob, bytes => .keyed { blob with store := blob.store.set blob.key bytes }
  | .inFile blob, bytes =>
    let written := (blob.tree.makeDirectories blob.directory).bind (·.write blob.path bytes)
    match written with
    | .ok tree => .inFile { blob with tree := tree }
    | .error _ => .inFile blob

end Backend

end PeerBook.Store
