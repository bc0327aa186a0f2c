import PeerBook.Node.Machine
import PeerBook.Discovery.Service
import PeerBook.Settings.Load

/-!
# The address-book node

A node puts settings to work on a machine. Made, it opens its log file (in the logs directory
unless the settings name one), and the place for its book: a database in the database
directory, or the book's file. It falls back on its DNS seeds when it has any.

Starting reads the saved book; saved data that is corrupt is passed over and the book stays as
it was, while a failure to read stops the start. It then adds the static peers, stamped with
the current time and the required services, starts serving metrics when an address is set, and
starts saving the book at the set interval when that is positive. Stopping ends the saving,
saves the book once more, releases the seeds and closes the database; it happens once.

A node saves its book only after it read the saved one, whether or not that was corrupt: a
node that could not read it never overwrites it.
-/

namespace PeerBook

open Store Discovery

/-- Why a node cannot be made or started. -/
inductive NodeError where
  | logsDir (error : FileError)
  | logFile (error : FileError)
  | database (dir : String) (error : DatabaseError)
  | load (error : ServiceError)
  | staticPeer (text : String) (error : Multiaddr.EndpointError)
  | metricsListen (addr : String) (error : HostPortError)
  deriving DecidableEq, Repr

/-- The message of a node that cannot be made or started, paths shown from a tree's root. -/
def NodeError.message (tree : FileTree) : NodeError → String
  | .logsDir error => "creating logs dir: " ++ tree.message error
  | .logFile error => "initializing logger: " ++ tree.message error
  | .database dir error =>
    "open database at " ++ dir ++ ": open database at " ++ dir ++ ": " ++ error.message tree
  | .load error => "load peers: " ++ error.message
  | .staticPeer text error => "static peer: " ++ error.message text
  | .metricsListen addr error => "metrics listen on " ++ addr ++ ": listen tcp: " ++ error.message addr

/-- The key under which a database holds the book. -/
def peersKey : String := "addrbook/peers"

/-- An address-book node. -/
structure Node where
  settings : Settings
  /-- The machine, apart from the book's blob, which the service holds. -/
  machine : Machine
  service : Service Backend ResolverSeeds
  /-- The directory of the database, when the book is kept in one. -/
  database : Option Path := none
  /-- Whether the saved book was read, so that saving cannot lose what it held. -/
  loaded : Bool := false
  /-- Whether the node was stopped. -/
  stopped : Bool := false
  /-- The address metrics are served on, once listening. -/
  metricsAddr : String := ""
  /-- For each running save loop, the nanoseconds since it began. -/
  saveLoops : List Nat := []

namespace Node

/-- The machine as the node leaves it. -/
def currentMachine (node : Node) : Machine :=
  match node.service.blob, node.database with
  | some (.inFile blob), _ => { node.machine with tree := blob.tree }
  | some (.keyed blob), some path => node.machine.keepDatabase path blob.store
  | _, _ => node.machine

/-- Makes a node on a machine; `lookup` resolves the DNS seeds. -/
def create (machine : Machine) (settings : Settings) (lookup : Seed.Lookup) :
    Except NodeError Node := do
  let logFile := machine.expandHome settings.log.file
  let (machine, logFile) ← if logFile.isEmpty then do
      let machine ← (machine.makeDirectories settings.logsDir).mapError .logsDir
      pure (machine, SlashPath.join [settings.logsDir, "addrbook.log"])
    else pure (machine, logFile)
  let machine ← (machine.openForAppend logFile).mapError .logFile
  let (machine, blob, database) ← if settings.discovery.backend == "badger" then do
      let (machine, path, store) ← (machine.openDatabase settings.dbDir).mapError
        (.database settings.dbDir)
      pure (machine, Backend.keyed ⟨store, peersKey⟩, some path)
    else
      let path := (machine.tree.locate? (machine.expandHome settings.peersFilePath)).getD []
      pure (machine, Backend.inFile ⟨machine.tree, path⟩, none)
  let port := (settings.discovery.seedPort.toInt % 65536).toNat.toUInt16
  let seeds : Option ResolverSeeds := if settings.discovery.seeds.isEmpty then none
    else some { resolver := ⟨settings.discovery.seeds, port⟩, lookup := lookup }
  return { settings, machine, database, service := { blob := some blob, seeds } }

/-- The address a listener gets for a host and port; port 0 asks for any free port. -/
def listenAddress (machine : Machine) (host port : String) : String :=
  let port := if port == "0" then toString machine.freePort else port
  if host.contains ':' then "[" ++ host ++ "]:" ++ port else host ++ ":" ++ port

/-- Starts a node at a time, in seconds. -/
def start (now : Int64) (node : Node) : Except NodeError Unit × Node :=
  match node.service.load with
  | (.error (.corrupt _), service) | (.ok _, service) =>
    let node := { node with service := service, loaded := true }
    let discovery := node.settings.discovery
    let statics := discovery.staticPeers.mapM fun text =>
      (Multiaddr.endpointOf Multiaddr.library text).mapError (NodeError.staticPeer text)
    match statics with
    | .error error => (.error error, node)
    | .ok endpoints =>
      let advertisements := endpoints.map fun endpoint =>
        ({ addr := endpoint.addr, port := endpoint.port, services := discovery.services,
           seconds := now, nanos := 0 } : Advertisement)
      let node := { node with service := node.service.process advertisements }
      let listening : Except NodeError Node :=
        if node.settings.metricsAddr.isEmpty then .ok node
        else match splitHostPort node.settings.metricsAddr with
          | .error error => .error (.metricsListen node.settings.metricsAddr error)
          | .ok (host, port) => .ok { node with metricsAddr := listenAddress node.machine host port }
      match listening with
      | .error error => (.error error, node)
      | .ok node =>
        if 0 < discovery.persistInterval.toInt && !node.stopped then
          (.ok (), { node with saveLoops := node.saveLoops ++ [0] })
        else (.ok (), node)
  | (.error error, service) => (.error (.load error), { node with service := service })

/-- Saves the book, if the saved one was read; a failure is only logged. -/
def save (node : Node) : Node :=
  if node.loaded then { node with service := node.service.store.2 } else node

/-- Lets time pass; each save loop saves the book when one of its intervals ends. -/
def wait (elapsed : Duration) (node : Node) : Node :=
  let step := elapsed.toInt.toNat
  let interval := node.settings.discovery.persistInterval.toInt.toNat
  let ticks := 0 < interval &&
    node.saveLoops.any fun since => since / interval < (since + step) / interval
  let node := { node with saveLoops := node.saveLoops.map (· + step) }
  if ticks then node.save else node

/-- Stops a node: ends the saving, saves once more, releases the seeds and closes the
database. A stopped node stays as it is. -/
def stop (node : Node) : Node :=
  if node.stopped then node
  else
    let node := ({ node with saveLoops := [] } : Node).save
    let service := node.service.shutdown
    let blob := service.blob.map fun
      | .keyed blob => .keyed { blob with
          store := blob.store.withFaults "badger get: DB Closed" "badger put: DB Closed" }
      | other => other
    { node with service := { service with blob := blob }, stopped := true }

/-- Adds peers at a time, offering some services; the count is how many were new. -/
def importPeers (now : Int64) (endpoints : List Endpoint) (services : ServiceMask) (node : Node) :
    Nat × Node :=
  let before := node.service.book.size
  let advertisements := endpoints.map fun endpoint =>
    ({ addr := endpoint.addr, port := endpoint.port, services := services,
       seconds := now, nanos := 0 } : Advertisement)
  let node := { node with service := node.service.process advertisements }
  (node.service.book.size - before, node)

/-- Hands out peers offering the required services. -/
def getPeers (node : Node) : Except ServiceError (List Endpoint) × Node :=
  let (answer, service) := node.service.getPeers {} node.settings.discovery.services
    node.settings.discovery.timeout
  (answer, { node with service := service })

/-- Stops a node and makes a new one with its settings on what it leaves behind. -/
def restart (lookup : Seed.Lookup) (node : Node) : Except NodeError Node :=
  let stopped := node.stop
  create stopped.currentMachine stopped.settings lookup

end Node

end PeerBook
