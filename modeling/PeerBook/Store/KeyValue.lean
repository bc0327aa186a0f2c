/-!
# Key-value stores

A key-value store in memory maps keys to byte strings. Reading or writing through it may be
made to fail with a given message, so that callers can be exercised against a failing store;
the entries themselves can still be seen and set directly.
-/

namespace PeerBook.Store

/-- Byte strings under keys, with the failures that reads and writes are to report. -/
structure KeyValueStore where
  entries : List (String × List UInt8) := []
  /-- When set, every read fails with this message. -/
  readFault : Option String := none
  /-- When set, every write fails with this message. -/
  writeFault : Option String := none
  deriving DecidableEq, Repr

namespace KeyValueStore

/-- The bytes stored under a key, failures aside. -/
def stored? (store : KeyValueStore) (key : String) : Option (List UInt8) :=
  store.entries.lookup key

/-- The store with bytes set under a key, failures aside. -/
def set (store : KeyValueStore) (key : String) (bytes : List UInt8) : KeyValueStore :=
  { store with entries := (store.entries.filter (·.1 != key)) ++ [(key, bytes)] }

/-- Reads a key: its bytes, nothing when it is not stored, or the read failure. -/
def get (store : KeyValueStore) (key : String) : Except String (Option (List UInt8)) :=
  match store.readFault with
  | some fault => .error fault
  | none => .ok (store.stored? key)

/-- Writes bytes under a key, unless writes fail. -/
def put (store : KeyValueStore) (key : String) (bytes : List UInt8) :
    Except String KeyValueStore :=
  match store.writeFault with
  | some fault => .error fault
  | none => .ok (store.set key bytes)

/-- The store with its failures set; an empty message means no failure. -/
def withFaults (store : KeyValueStore) (readFault writeFault : String) : KeyValueStore :=
  { store with
    readFault := if readFault.isEmpty then none else some readFault
    writeFault := if writeFault.isEmpty then none else some writeFault }

end KeyValueStore

end PeerBook.Store
