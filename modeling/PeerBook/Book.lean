import Std.Data.HashMap
import PeerBook.PeerRecord
import PeerBook.ServedSet

/-!
# The address book

A book holds peer records in the order their endpoints were first learned, one record per
normalized endpoint, an index from each endpoint to the position of its record, and the set of
endpoints already handed out.

Merging a record ignores it unless it is admissible, and otherwise normalizes it and looks its
endpoint up in the index: a record for a known endpoint overwrites the services and last-seen
time of the stored one, which keeps its place (even when the new record is older); a record for
a new endpoint goes to the end, and the index learns its position. Replacing empties the
records and the index, keeps the served set, and merges anew. Taking the records that offer
some services hands out, in book order, those whose endpoints were not yet served, and marks
them served.
-/

namespace PeerBook

/-- Peer records in the order they were first learned, the position of each endpoint's record,
and the endpoints handed out. -/
structure Book where
  records : List PeerRecord := []
  index : Std.HashMap Endpoint Nat := {}
  served : ServedSet := {}
  deriving Repr, Inhabited

namespace Book

/-- The book with no record and nothing served. -/
def empty : Book := {}

/-- Merges one record; the flag tells whether it added a new endpoint. -/
def merge (book : Book) (record : PeerRecord) : Book × Bool :=
  if record.isAdmissible then
    let normal := record.normalize
    match book.index[normal.endpoint]? with
    | some position =>
      ({ book with records := book.records.modify position fun stored =>
          { stored with services := normal.services, lastSeen := normal.lastSeen } }, false)
    | none =>
      ({ book with
          records := book.records ++ [normal]
          index := book.index.insert normal.endpoint book.records.length }, true)
  else (book, false)

/-- One record's turn in merging several: the book so far and how many endpoints were new. -/
def mergeTurn (state : Book × Nat) (record : PeerRecord) : Book × Nat :=
  let (book, isNew) := state.1.merge record
  (book, if isNew then state.2 + 1 else state.2)

/-- Merges records in order; the count tells how many added a new endpoint. -/
def mergeAll (book : Book) (records : List PeerRecord) : Book × Nat :=
  records.foldl mergeTurn (book, 0)

/-- Empties the records and the index, keeping the served set, and merges `records`; the count
is the new number of records. -/
def replace (book : Book) (records : List PeerRecord) : Book × Nat :=
  let book := (({ book with records := [], index := {} } : Book).mergeAll records).1
  (book, book.records.length)

/-- The number of records. -/
def size (book : Book) : Nat := book.records.length

/-- The number of endpoints handed out. -/
def servedCount (book : Book) : Nat := book.served.size

/-- One record's turn in taking the matching records: the served set so far and the endpoints
handed out. A record that offers every required service hands out its endpoint when marking
it finds it new. -/
def takeTurn (required : ServiceMask) (state : ServedSet × List Endpoint) (record : PeerRecord) :
    ServedSet × List Endpoint :=
  if record.hasServices required then
    let (served, isNew) := state.1.mark record.endpoint
    (served, if isNew then state.2 ++ [record.endpoint] else state.2)
  else state

/-- Hands out, in book order, the endpoints of records that offer every required service and
were not yet served, and marks them served. -/
def takeMatching (book : Book) (required : ServiceMask) : Book × List Endpoint :=
  let (served, taken) := book.records.foldl (takeTurn required) (book.served, [])
  ({ book with served := served }, taken)

/-- Marks endpoints served. -/
def markServed (book : Book) (endpoints : List Endpoint) : Book :=
  { book with served := book.served.markAll endpoints }

end Book

end PeerBook
