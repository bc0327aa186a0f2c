import PeerBook.Settings
import PeerBook.LogLevel
import PeerBook.Multiaddr
import PeerBook.Net.HostPort

/-!
# Checking settings

Settings are checked in a fixed order, and the first failed check is reported: the network is
`mainnet` or `testnet`; the data directory is given; the backend is `file` or `badger` (none
means `file`); the seed port is a port number, 1 to 65535; a DNS server, when given, is a host
and port; the seed timeout is positive; the save interval is not negative; no seed is an empty
name; every static peer is a multiaddress with an address and a TCP port; a metrics address,
when given, is a host and port; and the log level is a level (none means `info`). The settings
that pass come back with the missing backend and log level filled in.
-/

namespace PeerBook

/-- The first check that settings fail. -/
inductive SettingsError where
  /-- There are no settings at all. -/
  | missing
  | unknownNetwork
  | noDataDir
  | unknownBackend
  | seedPortOutOfRange
  | resolverNotHostPort (text : String) (error : HostPortError)
  | timeoutNotPositive
  | negativePersistInterval
  | emptySeed (index : Nat)
  | badStaticPeer (index : Nat) (text : String) (error : Multiaddr.EndpointError)
  | metricsNotHostPort (text : String) (error : HostPortError)
  | unknownLogLevel
  deriving DecidableEq, Repr

/-- The message of a failed check. -/
def SettingsError.message : SettingsError → String
  | .missing => "config is nil"
  | .unknownNetwork => "network must be \"mainnet\" or \"testnet\""
  | .noDataDir => "datadir must not be empty"
  | .unknownBackend => "discovery.backend must be \"file\" or \"badger\""
  | .seedPortOutOfRange => "discovery.seedport must be in range [1, 65535]"
  | .resolverNotHostPort text error =>
    "discovery.resolver must be host:port: " ++ error.message text
  | .timeoutNotPositive => "discovery.timeout must be positive"
  | .negativePersistInterval => "discovery.persistinterval must not be negative"
  | .emptySeed index => "discovery.seeds[" ++ toString index ++ "] is empty"
  | .badStaticPeer index text error =>
    "discovery.static[" ++ toString index ++ "]: " ++ error.message text
  | .metricsNotHostPort text error => "metrics.addr must be host:port: " ++ error.message text
  | .unknownLogLevel => "log.level must be one of trace, debug, info, warn, error"

namespace Settings

/-- The first item of a list, with its position, that fails a check. -/
def firstFailure {α ε : Type} (check : Nat → α → Option ε) (items : List α) : Option ε :=
  (items.zipIdx.filterMap fun (item, index) => check index item).head?

/-- Checks settings; those that pass come back with their backend and log level filled in. -/
def validate (settings : Settings) : Except SettingsError Settings := do
  unless settings.network == mainnet || settings.network == testnet do throw .unknownNetwork
  if settings.dataDir.isEmpty then throw .noDataDir
  let discovery := settings.discovery
  let backend ← match discovery.backend with
    | "file" | "badger" => pure discovery.backend
    | "" => pure "file"
    | _ => throw .unknownBackend
  if discovery.seedPort < 1 || 65535 < discovery.seedPort then throw .seedPortOutOfRange
  unless discovery.resolver.isEmpty do
    if let .error error := splitHostPort discovery.resolver then
      throw (.resolverNotHostPort discovery.resolver error)
  if discovery.timeout.toInt ≤ 0 then throw .timeoutNotPositive
  if discovery.persistInterval.toInt < 0 then throw .negativePersistInterval
  if let some error := firstFailure (fun index seed =>
      if seed.isEmpty then some (SettingsError.emptySeed index) else none) discovery.seeds then
    throw error
  if let some error := firstFailure (fun index text =>
      match Multiaddr.endpointOf Multiaddr.library text with
      | .error error => some (SettingsError.badStaticPeer index text error)
      | .ok _ => none) discovery.staticPeers then
    throw error
  unless settings.metricsAddr.isEmpty do
    if let .error error := splitHostPort settings.metricsAddr then
      throw (.metricsNotHostPort settings.metricsAddr error)
  let level := if settings.log.level.isEmpty then "info" else settings.log.level
  unless LogLevel.isValid level do throw .unknownLogLevel
  return { settings with
    discovery := { discovery with backend := backend }
    log := { settings.log with level := level } }

/-- Checks settings that may be missing altogether. -/
def validateGiven : Option Settings → Except SettingsError Settings
  | none => .error .missing
  | some settings => settings.validate

end Settings

end PeerBook
