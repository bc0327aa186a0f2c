import PeerBook.Duration
import PeerBook.Services
import PeerBook.Text.SlashPath

/-!
# Settings

What an address-book node is configured with: its network, data directory, where and how it
keeps and finds peers, where it serves metrics, and how it logs.

Each network has its defaults. Both networks keep the book in a file, require the `BLOOM`
service, give seeds ten seconds and save every five minutes; they differ in their DNS seeds and
the port given to the peers those return. A name that is no known network gets the defaults of
the main network.

The paths of a node follow from its data directory: the network's own directory below it, the
book's file in that (unless the file is given as an absolute path), the database directory, the
logs directory, and the settings file.
-/

namespace PeerBook

/-- Where and how a node keeps and finds peers. -/
structure DiscoverySettings where
  /-- Where the book is kept: `file` or `badger`. -/
  backend : String := ""
  /-- The book's file; a relative path is taken from the network's directory. -/
  peersFile : String := ""
  /-- DNS seed host names. -/
  seeds : List String := []
  /-- The port given to the addresses the seeds return. -/
  seedPort : Int64 := 0
  /-- A DNS server as host and port; empty for the system's resolver. -/
  resolver : String := ""
  /-- The services a peer must offer. -/
  services : ServiceMask := ServiceMask.empty
  /-- How long the seeds may take. -/
  timeout : Duration := ⟨0⟩
  /-- How often the book is saved; zero for never. -/
  persistInterval : Duration := ⟨0⟩
  /-- Multiaddresses of peers added at start. -/
  staticPeers : List String := []
  deriving DecidableEq, Repr

/-- How a node logs. -/
structure LogSettings where
  level : String := ""
  file : String := ""
  json : Bool := false
  deriving DecidableEq, Repr

/-- The settings of a node. -/
structure Settings where
  network : String := ""
  dataDir : String := ""
  discovery : DiscoverySettings := {}
  /-- Where metrics are served, as host and port; empty for nowhere. -/
  metricsAddr : String := ""
  log : LogSettings := {}
  deriving DecidableEq, Repr

namespace Settings

def mainnet : String := "mainnet"
def testnet : String := "testnet"

/-- The default name of the book's file. -/
def peersFileName : String := "PeerAddresses.dat"

/-- The data directory below a home directory; without a home, a relative one. -/
def defaultDataDir (home : String) : String :=
  if home.isEmpty then ".klingnet-addrbook" else SlashPath.join [home, ".klingnet-addrbook"]

/-- The DNS seeds of the main network. -/
def mainnetSeeds : List String := [
  "seed.bitcoin.sipa.be",
  "dnsseed.bluematt.me",
  "dnsseed.bitcoin.dashjr.org",
  "seed.bitcoinstats.com",
  "seed.bitcoin.jonasschnelli.ch",
  "seed.btc.petertodd.org"]

/-- The DNS seeds of the test network. -/
def testnetSeeds : List String := [
  "testnet-seed.bitcoin.jonasschnelli.ch",
  "seed.tbtc.petertodd.org",
  "testnet-seed.bluematt.me"]

/-- The defaults of the main network. -/
def mainnetDefaults (home : String) : Settings where
  network := mainnet
  dataDir := defaultDataDir home
  discovery := {
    backend := "file"
    seeds := mainnetSeeds
    seedPort := 8333
    services := ServiceMask.single ServiceFlag.bloom.position
    timeout := Duration.ofNanos (10 * Duration.second)
    persistInterval := Duration.ofNanos (5 * Duration.minute) }
  log := { level := "info" }

/-- The defaults of the test network. -/
def testnetDefaults (home : String) : Settings :=
  let base := mainnetDefaults home
  { base with
    network := testnet
    discovery := { base.discovery with seeds := testnetSeeds, seedPort := 18333 } }

/-- The defaults of a network; any name but `testnet` gets the main network's. -/
def defaults (home network : String) : Settings :=
  if network == testnet then testnetDefaults home else mainnetDefaults home

/-- The network's own directory. -/
def networkDir (settings : Settings) : String :=
  SlashPath.join [settings.dataDir, settings.network]

/-- The book's file. -/
def peersFilePath (settings : Settings) : String :=
  let file := if settings.discovery.peersFile.isEmpty then peersFileName
    else settings.discovery.peersFile
  if SlashPath.isAbsolute file then file else SlashPath.join [settings.networkDir, file]

/-- The database directory. -/
def dbDir (settings : Settings) : String := SlashPath.join [settings.networkDir, "addrbook.db"]

/-- The logs directory. -/
def logsDir (settings : Settings) : String := SlashPath.join [settings.dataDir, "logs"]

/-- The settings file. -/
def configFile (settings : Settings) : String := SlashPath.join [settings.dataDir, "addrbook.conf"]

end Settings

end PeerBook
