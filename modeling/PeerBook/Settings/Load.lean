import PeerBook.Settings.File
import PeerBook.Settings.Flags
import PeerBook.Settings.Validation
import PeerBook.Store.FileTree

/-!
# Settling the settings

Settings come from three layers, each over the one before: the defaults of the network named
on the command line (`testnet` in any case, else the main network), the settings file, and the
command line. The settings file is the one named on the command line, else the one in the data
directory; a missing file is empty. When the file names another network, that network's seeds
and seed port replace the first network's, unless the file gives them too. The command line
overrides what it gives a non-empty or non-zero value for, and the flags that count only when
given override whenever given; the network and backend it gives are lower-cased. The result is
checked.

Making the data directories makes the data directory, the network's directory and the logs
directory, each with its missing ancestors, and writes the default settings file when there is
none.
-/

namespace PeerBook

/-- Why settings cannot be settled. -/
inductive LoadError where
  | unreadableFile (error : SettingsFileError)
  | badFileValue (error : ValueError)
  | badServicesFlag (error : ServiceMask.ParseError)
  | invalid (error : SettingsError)
  deriving DecidableEq, Repr

/-- The message of settings that cannot be settled. -/
def LoadError.message : LoadError → String
  | .unreadableFile error => "loading config file: " ++ error.message
  | .badFileValue error => "applying config file: " ++ error.message
  | .badServicesFlag error => "--services: " ++ error.message
  | .invalid error => "invalid config: " ++ error.message

namespace Settings

/-- The settings with what the command line gives laid over them. -/
def applyCommandLine (settings : Settings) (line : CommandLine) :
    Except ServiceMask.ParseError Settings := do
  let unlessEmpty (given : String) (current : String) : String := if given.isEmpty then current else given
  let services ← if line.setServices then ServiceMask.parse line.services
    else pure settings.discovery.services
  let discovery := settings.discovery
  return { settings with
    network := if line.network.isEmpty then settings.network else Text.lowerCase line.network
    dataDir := unlessEmpty line.dataDir settings.dataDir
    discovery := { discovery with
      backend := if line.backend.isEmpty then discovery.backend else Text.lowerCase line.backend
      peersFile := unlessEmpty line.peersFile discovery.peersFile
      seeds := if line.seeds.isEmpty then discovery.seeds else listItems line.seeds
      seedPort := if line.seedPort == 0 then discovery.seedPort else line.seedPort
      resolver := unlessEmpty line.resolver discovery.resolver
      services := services
      timeout := if line.timeout.toInt == 0 then discovery.timeout else line.timeout
      persistInterval := if line.setPersistInterval then line.persistInterval
        else discovery.persistInterval
      staticPeers := if line.staticPeers.isEmpty then discovery.staticPeers
        else listItems line.staticPeers }
    metricsAddr := unlessEmpty line.metricsAddr settings.metricsAddr
    log := {
      level := unlessEmpty line.logLevel settings.log.level
      file := unlessEmpty line.logFile settings.log.file
      json := if line.setLogJson then line.logJson else settings.log.json } }

/-- The settings file a command line leads to: the one it names, else the one in the data
directory it names or the network's default one. -/
def configPath (home : String) (line : CommandLine) : String :=
  if line.config.isEmpty then
    let base := defaults home (if Text.lowerCase line.network == testnet then testnet else mainnet)
    (if line.dataDir.isEmpty then base else { base with dataDir := line.dataDir }).configFile
  else line.config

/-- Settles the settings of a command line over a settings file's text, `none` for a missing
file. -/
def load (home : String) (line : CommandLine) (file : Option String) :
    Except LoadError Settings := do
  let network := if Text.lowerCase line.network == testnet then testnet else mainnet
  let settings := defaults home network
  let settings := if line.dataDir.isEmpty then settings else { settings with dataDir := line.dataDir }
  let values ← (SettingsFile.read (file.getD "")).mapError .unreadableFile
  let settings ← (settings.applyValues values).mapError .badFileValue
  let settings :=
    if settings.network == network then settings
    else
      let other := defaults home settings.network
      let given (key : String) : Bool := values.any (·.1 == key)
      { settings with discovery := { settings.discovery with
          seeds := if given "discovery.seeds" then settings.discovery.seeds
            else other.discovery.seeds
          seedPort := if given "discovery.seedport" then settings.discovery.seedPort
            else other.discovery.seedPort } }
  let settings ← (settings.applyCommandLine line).mapError .badServicesFlag
  (settings.validate).mapError .invalid

/-- The version a node reports. -/
def version : String := "0.1.0"

/-- The help text of the command line's options, with the data directory under a home. -/
def usage (home : String) : String :=
  "Global Options:\n" ++
  "  --network           Network type: mainnet (default) or testnet\n" ++
  "  --testnet           Shorthand for --network=testnet\n" ++
  "  --datadir           Data directory (default: " ++ defaultDataDir home ++ ")\n" ++
  "  --config, -c        Config file path (default: <datadir>/addrbook.conf)\n" ++
  "\n" ++
  "Discovery Options:\n" ++
  "  --backend           Address book backend: file (default) or badger\n" ++
  "  --peers-file        Address book file (default: <datadir>/<network>/" ++ peersFileName ++
    ")\n" ++
  "  --seeds             DNS seeds (comma-separated host names)\n" ++
  "  --seed-port         Port attached to seed results (mainnet: 8333, testnet: 18333)\n" ++
  "  --resolver          DNS server for seed queries, host:port (default: system)\n" ++
  "  --services          Required service flags, e.g. BLOOM or NETWORK|BLOOM or 0x5\n" ++
  "  --timeout           Seed resolution timeout, must be positive (default: 10s)\n" ++
  "  --persist-interval  Periodic save interval, 0 disables (default: 5m)\n" ++
  "  --static            Static peers as comma-separated multiaddrs\n" ++
  "\n" ++
  "Metrics Options:\n" ++
  "  --metrics-addr      Serve Prometheus metrics on host:port (default: disabled)\n" ++
  "\n" ++
  "Logging Options:\n" ++
  "  --log-level         Log level: trace, debug, info, warn, error (default: info)\n" ++
  "  --log-file          Log file path\n" ++
  "  --log-json          Output logs as JSON\n"

end Settings

/-- Why the data directories cannot be made. -/
inductive DataDirError where
  | directory (path : String) (error : Store.FileError)
  | configFile (error : Store.FileError)
  deriving DecidableEq, Repr

/-- The message of data directories that cannot be made. -/
def DataDirError.message (tree : Store.FileTree) : DataDirError → String
  | .directory path error => "creating directory " ++ path ++ ": " ++ tree.message error
  | .configFile error => "writing config file: " ++ tree.message error

namespace Settings

/-- Makes the data directories of the settings in a file tree, and the default settings file
when there is none. -/
def ensureDataDirs (home : String) (settings : Settings) (tree : Store.FileTree) :
    Except DataDirError Store.FileTree := do
  let tree ← [settings.dataDir, settings.networkDir, settings.logsDir].foldlM (fun tree text =>
    match tree.locate? text with
    | none => throw (.directory text (.elsewhere "mkdir" text .notFound))
    | some path => (tree.makeDirectories path).mapError (.directory text)) tree
  let some path := tree.locate? settings.configFile
    | throw (.configFile (.elsewhere "open" settings.configFile .notFound))
  match tree.reach path with
  | .error .notFound | .ok none =>
    (tree.write path (defaultFile home settings.network).toUTF8.toList).mapError .configFile
  | _ => return tree

end Settings

end PeerBook
