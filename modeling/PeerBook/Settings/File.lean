import PeerBook.Settings
import PeerBook.Numeral
import PeerBook.Text.Blank
import PeerBook.Text.CaseMap

/-!
# The settings file

A settings file holds one `key = value` setting per line. Lines are trimmed of blanks; blank
lines and lines starting with `#` are skipped. A line is cut at its first `=`, and key and value
are trimmed; a value of two or more characters between a matching pair of `"` or `'` loses
them. A later line for a key replaces the earlier one. A line without `=` is refused with its
number, and so is a line of 65536 bytes or more, as too long to read; lines after a refused one
are not read.

Applying values sets the settings they name and ignores unknown keys. Numbers, service masks
and durations are read by their own rules; a value that does not read is refused, naming its
key. Lists are comma-separated, each item trimmed, empty items dropped; a flag is true for
`true`, `1`, `yes` or `on` in any case.

The default settings file of a network writes out, with comments, the defaults of that network.
-/

namespace PeerBook

/-- Setting values by key, in the order keys were first given. -/
abbrev SettingValues := List (String × String)

/-- The values with a key set, replacing an earlier value in its place. -/
def SettingValues.insert (values : SettingValues) (key value : String) : SettingValues :=
  if values.any (·.1 == key) then values.map fun (k, v) => (k, if k == key then value else v)
  else values ++ [(key, value)]

/-- Why a settings file cannot be read. -/
inductive SettingsFileError where
  /-- The line of this number has no `=`. -/
  | malformedLine (number : Nat)
  /-- A line is too long to read. -/
  | lineTooLong
  deriving DecidableEq, Repr

/-- The message of an unreadable settings file. -/
def SettingsFileError.message : SettingsFileError → String
  | .malformedLine number =>
    "line " ++ toString number ++ ": invalid format (expected key = value)"
  | .lineTooLong => "bufio.Scanner: token too long"

namespace SettingsFile

/-- The longest line, in bytes, that can be read. -/
def maxLineBytes : Nat := 65535

/-- The lines of a text: its pieces between line feeds, without a last empty piece. -/
def lines (content : String) : List String :=
  let pieces := (content.toList.splitOn '\n').map String.ofList
  if pieces.getLastD "" == "" then pieces.dropLast else pieces

/-- The characters before the first `separator` and those after it, or `none` without one. -/
def cut (chars : List Char) (separator : Char) : Option (List Char × List Char) :=
  match chars.span (· != separator) with
  | (before, _ :: after) => some (before, after)
  | (_, []) => none

/-- A value without a matching pair of quotes around it. -/
def unquote (value : String) : String :=
  match value.toList with
  | first :: rest@(_ :: _) =>
    if (first == '"' || first == '\'') && rest.getLastD ' ' == first then
      String.ofList rest.dropLast
    else value
  | _ => value

/-- The key and value of a line, `none` for a line to skip, or the line refused; a final
carriage return is not part of the line. -/
def readLine (number : Nat) (line : String) :
    Except SettingsFileError (Option (String × String)) :=
  let chars := if line.toList.getLast? == some '\r' then line.toList.dropLast else line.toList
  let trimmed := Text.trimBlankList chars
  if trimmed.isEmpty || trimmed.head? == some '#' then .ok none
  else
    match cut trimmed '=' with
    | some (key, value) =>
      .ok (some (Text.trimBlank (String.ofList key), unquote (Text.trimBlank (String.ofList value))))
    | none => .error (.malformedLine number)

/-- The values of a settings file's text. -/
def read (content : String) : Except SettingsFileError SettingValues :=
  (lines content).zipIdx.foldlM (fun values (line, index) => do
    if maxLineBytes < line.utf8ByteSize then throw .lineTooLong
    match ← readLine (index + 1) line with
    | some (key, value) => pure (values.insert key value)
    | none => pure values) []

end SettingsFile

/-- Why a setting's value cannot be applied. -/
inductive ValueFault where
  | number (refusal : Numeral.Refusal)
  | services (error : ServiceMask.ParseError)
  | duration (error : Duration.ParseError)
  deriving DecidableEq, Repr

/-- The message of a value that cannot be applied. -/
def ValueFault.message : ValueFault → String
  | .number refusal => refusal.message
  | .services error => error.message
  | .duration error => error.message

/-- A refused value and its key. -/
structure ValueError where
  key : String
  fault : ValueFault
  deriving DecidableEq, Repr

/-- The message of a refused value, naming its key. -/
def ValueError.message (error : ValueError) : String :=
  "config key " ++ Text.quote error.key ++ ": " ++ error.fault.message

/-- The items of a comma-separated list, trimmed, empty ones dropped. -/
def listItems (text : String) : List String :=
  ((text.splitOn ",").map Text.trimBlank).filter (!·.isEmpty)

/-- Whether a text says yes: `true`, `1`, `yes` or `on`, in any case. -/
def isYes (text : String) : Bool :=
  ["true", "1", "yes", "on"].contains (Text.lowerCase text)

namespace Settings

/-- Sets the setting a key names; an unknown key changes nothing. -/
def applyValue (settings : Settings) (key value : String) : Except ValueFault Settings := do
  let discovery := settings.discovery
  match key with
  | "network" => return { settings with network := value }
  | "datadir" => return { settings with dataDir := value }
  | "discovery.backend" =>
    return { settings with discovery := { discovery with backend := Text.lowerCase value } }
  | "discovery.peersfile" =>
    return { settings with discovery := { discovery with peersFile := value } }
  | "discovery.seeds" =>
    return { settings with discovery := { discovery with seeds := listItems value } }
  | "discovery.seedport" =>
    match Numeral.readDecimalReported value with
    | .ok port => return { settings with discovery := { discovery with seedPort := Int64.ofInt port } }
    | .error refusal => throw (.number refusal)
  | "discovery.resolver" =>
    return { settings with discovery := { discovery with resolver := value } }
  | "discovery.services" =>
    match ServiceMask.parse value with
    | .ok mask => return { settings with discovery := { discovery with services := mask } }
    | .error error => throw (.services error)
  | "discovery.timeout" =>
    match Duration.parse value with
    | .ok timeout => return { settings with discovery := { discovery with timeout := timeout } }
    | .error error => throw (.duration error)
  | "discovery.persistinterval" =>
    match Duration.parse value with
    | .ok interval =>
      return { settings with discovery := { discovery with persistInterval := interval } }
    | .error error => throw (.duration error)
  | "discovery.static" =>
    return { settings with discovery := { discovery with staticPeers := listItems value } }
  | "metrics.addr" => return { settings with metricsAddr := value }
  | "log.level" => return { settings with log := { settings.log with level := value } }
  | "log.file" => return { settings with log := { settings.log with file := value } }
  | "log.json" => return { settings with log := { settings.log with json := isYes value } }
  | _ => return settings

/-- Applies values in turn; the first refused one stops. -/
def applyValues (settings : Settings) (values : SettingValues) : Except ValueError Settings :=
  values.foldlM (fun settings (key, value) =>
    (settings.applyValue key value).mapError (ValueError.mk key)) settings

/-- The default settings file of a network, with the data directory shown under a home. -/
def defaultFile (home network : String) : String :=
  let defaults := Settings.defaults home network
  let rule := "# ============================================================================\n"
  let heading (title : String) : String := rule ++ "# " ++ title ++ "\n" ++ rule
  "# Klingnet address book configuration\n\n" ++
  "# Network: mainnet or testnet\n" ++
  "network = " ++ network ++ "\n\n" ++
  "# Data directory (default: " ++ defaultDataDir home ++ ")\n" ++
  "# datadir =\n\n" ++
  heading "Discovery" ++ "\n" ++
  "# Where the address book is saved: file or badger\n" ++
  "discovery.backend = file\n" ++
  "# discovery.peersfile = " ++ peersFileName ++ "\n\n" ++
  "# DNS seeds (comma-separated host names)\n" ++
  "discovery.seeds = " ++ ",".intercalate defaults.discovery.seeds ++ "\n" ++
  "discovery.seedport = " ++ toString defaults.discovery.seedPort.toInt ++ "\n\n" ++
  "# DNS server used for seed queries (host:port); empty uses the system resolver\n" ++
  "# discovery.resolver = 9.9.9.9:53\n\n" ++
  "# Required service flags: names (NETWORK|GETUTXOS|BLOOM) or a number\n" ++
  "discovery.services = " ++ defaults.discovery.services.format ++ "\n" ++
  "discovery.timeout = " ++ defaults.discovery.timeout.render ++ "\n" ++
  "discovery.persistinterval = " ++ defaults.discovery.persistInterval.render ++ "\n\n" ++
  "# Peers merged into the book at startup (comma-separated multiaddrs)\n" ++
  "# discovery.static = /ip4/203.0.113.10/tcp/8333\n\n" ++
  heading "Metrics" ++ "\n" ++
  "# Prometheus endpoint (host:port); empty disables\n" ++
  "# metrics.addr = 127.0.0.1:9333\n\n" ++
  heading "Logging" ++ "\n" ++
  "log.level = info\n" ++
  "# log.file =\n" ++
  "log.json = false\n"

end Settings

end PeerBook
