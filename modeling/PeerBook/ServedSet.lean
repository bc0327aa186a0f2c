import PeerBook.Net.Endpoint

/-!
# Served sets

The set of peers already handed out. A peer is kept by its normalized endpoint, so the mapped,
zoned and plain forms of one endpoint are one member. Marking an endpoint adds it and tells
whether it was new; nothing is ever taken out.
-/

namespace PeerBook

/-- Endpoints handed out, in normal form, the latest first, each once. -/
structure ServedSet where
  keys : List Endpoint := []
  deriving DecidableEq, Repr, Inhabited

namespace ServedSet

/-- The set with no member. -/
def empty : ServedSet := {}

/-- Whether the normal form of an endpoint is a member. -/
def contains (set : ServedSet) (endpoint : Endpoint) : Bool :=
  set.keys.contains endpoint.normalize

/-- Adds the normal form of an endpoint; the flag tells whether it was new. -/
def mark (set : ServedSet) (endpoint : Endpoint) : ServedSet × Bool :=
  if set.contains endpoint then (set, false)
  else (⟨endpoint.normalize :: set.keys⟩, true)

/-- Adds the normal forms of several endpoints. -/
def markAll (set : ServedSet) (endpoints : List Endpoint) : ServedSet :=
  endpoints.foldl (fun set endpoint => (set.mark endpoint).1) set

/-- The number of members. -/
def size (set : ServedSet) : Nat := set.keys.length

end ServedSet

end PeerBook
