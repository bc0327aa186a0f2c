import PeerBook.Node

/-!
# The address book on the command line

`addrbook [global flags] <command> [flags]`. `init` makes the data directory and its settings
file; `dump` prints the records of a saved book; `import` adds peers to the book; `discover`
runs rounds of discovery and prints each batch; `run` keeps a node up until its input ends.

The commands work on the real file system through a file tree: the paths a command may touch
are read into the tree first, the command runs on the tree, and the directories and files it
made or changed are written back. The clock is the kernel's boot time plus its uptime.
-/

namespace PeerBook.Command

open Store

/-- The help text of the program. -/
def usageText (home : String) : String :=
  "Usage: addrbook [global flags] <command> [flags]\n\n" ++
  "Commands:\n" ++
  "  init                            Create the data directory and default config\n" ++
  "  dump [--file <path>]            Print the records of a saved address book\n" ++
  "  import [--services <mask>] <multiaddr>...\n" ++
  "                                  Add peers to the address book\n" ++
  "  discover [--services <mask>] [--rounds <n>] [--timeout <d>]\n" ++
  "                                  Run discovery rounds and print each batch\n" ++
  "  run                             Keep the book loaded and save it periodically\n\n" ++
  Settings.usage home

/-- A text padded with blanks on the right to a width. -/
def padRight (width : Nat) (text : String) : String :=
  text ++ String.ofList (List.replicate (width - text.length) ' ')

/-- The line `dump` prints for a record: multiaddress, services and time. -/
def recordLine (record : PeerRecord) : String :=
  let address := match Multiaddr.ofEndpoint Multiaddr.library record.endpoint with
    | .ok multiaddr => Multiaddr.library.text multiaddr
    | .error _ => record.endpoint.render
  "  " ++ padRight 46 address ++ " " ++ padRight 20 record.services.format ++ " " ++ record.timeText

/-- Reports a failure and gives the exit code 1. -/
def fail (message : String) : IO UInt32 := do
  IO.eprintln ("Error: " ++ message)
  return 1

/-- An absolute, cleaned path. -/
def absolute (path : String) : IO String := do
  if SlashPath.isAbsolute path then return SlashPath.clean path
  return SlashPath.join [(← IO.currentDir).toString, path]

/-- What the real file system holds at a path. -/
def probe (path : String) : IO (Option Entry) := do
  try
    return some (.file (← IO.FS.readBinFile path).toList)
  catch error =>
    match error with
    | .inappropriateType _ 21 _ => return some .directory
    | _ => return none

/-- A file tree rooted at `/` holding what the real file system has at some paths and at every
directory above them. -/
def readTree (paths : List String) : IO FileTree := do
  let mut tree : FileTree := { root := "" }
  for path in paths do
    let some parts := tree.locate? path | continue
    for count in List.range parts.length do
      let leading := parts.take (count + 1)
      if (tree.find? leading).isNone then
        if let some entry ← probe ("/" ++ "/".intercalate leading) then
          tree := tree.put leading entry
  return tree

/-- Writes to the real file system what a tree made or changed since an earlier tree. -/
def writeBack (before after : FileTree) : IO Unit := do
  let entries := after.entries.mergeSort fun first second => first.1.length ≤ second.1.length
  for (path, entry) in entries do
    if before.find? path == some entry then continue
    let text := "/" ++ "/".intercalate path
    match entry with
    | .directory => IO.FS.createDirAll text
    | .file bytes => IO.FS.writeBinFile text ⟨bytes.toArray⟩

/-- The first number on the line of a text that starts with a word. -/
def fieldAfter (word text : String) : Option Nat :=
  (text.splitOn "\n").findSome? fun line =>
    match line.splitOn " " with
    | first :: value :: _ => if first == word then value.toNat? else none
    | _ => none

/-- The current time in seconds: the kernel's boot time plus its uptime. -/
def clock : IO Int64 := do
  try
    let boot := (fieldAfter "btime" (← IO.FS.readFile "/proc/stat")).getD 0
    let uptime := ((← IO.FS.readFile "/proc/uptime").splitOn ".").headD "0"
    return Int64.ofNat (boot + uptime.toNat!)
  catch _ => return 0

/-- The paths a node of these settings may touch. -/
def nodePaths (home : String) (settings : Settings) : List String :=
  [settings.dataDir, settings.networkDir, settings.logsDir, settings.configFile,
    SlashPath.join [settings.logsDir, "addrbook.log"], settings.peersFilePath,
    (Machine.expandHome { home, tree := { root := "" }, freePort := 0 } settings.log.file)]

/-- Makes the data directories, then makes and starts a node on the real file system. A failure
gives its message, once what was made on the way is written back. -/
def startNode (home : String) (settings : Settings) (now : Int64) :
    IO (Except String (FileTree × Node)) := do
  let before ← readTree (nodePaths home settings)
  match settings.ensureDataDirs home before with
  | .error error => return .error (error.message before)
  | .ok tree =>
    match Node.create { home, tree, freePort := 0 } settings (Seed.LookupEntry.lookup []) with
    | .error error =>
      writeBack before tree
      return .error (error.message tree)
    | .ok node =>
      match node.start now with
      | (.ok (), node) => return .ok (before, node)
      | (.error error, node) =>
        let tree := node.currentMachine.tree
        writeBack before node.stop.currentMachine.tree
        return .error (error.message tree)

/-- Reads the flags of a command; a bad one is reported with exit code 2. -/
def commandFlags (name : String) (kinds : List (String × FlagKind)) (arguments : List String) :
    IO (Option (List (String × FlagValue) × List String)) := do
  match readFlags kinds arguments with
  | .ok read => return some read
  | .error error =>
    IO.eprintln error.message
    IO.eprintln ("Usage of " ++ name ++ ":")
    return none

/-- The text value of a flag, if given. -/
def textFlag (values : List (String × FlagValue)) (name : String) : Option String :=
  values.reverse.findSome? fun
    | (key, .text value) => if key == name then some value else none
    | _ => none

/-- `init`: makes the data directory and prints its paths. -/
def init (home : String) (settings : Settings) : IO UInt32 := do
  let before ← readTree
    [settings.dataDir, settings.networkDir, settings.logsDir, settings.configFile]
  match settings.ensureDataDirs home before with
  | .error error => fail (error.message before)
  | .ok after =>
    writeBack before after
    IO.println ("Data dir: " ++ settings.dataDir)
    IO.println ("Config:   " ++ settings.configFile)
    IO.println ("Peers:    " ++ settings.peersFilePath)
    return 0

/-- `dump`: prints the records of a saved book. -/
def dump (settings : Settings) (arguments : List String) : IO UInt32 := do
  let some (values, _) ← commandFlags "dump" [("file", .text)] arguments | return 2
  let path ← absolute ((textFlag values "file").getD settings.peersFilePath)
  let tree ← readTree [path]
  let blob : FileBlob := ⟨tree, (tree.locate? path).getD []⟩
  match blob.load with
  | .error message => fail message
  | .ok none => fail ("no peers file at " ++ path)
  | .ok (some bytes) =>
    match PeerFile.decode bytes with
    | .error error => fail (path ++ ": " ++ error.message)
    | .ok records =>
      IO.println ("Peers: " ++ toString records.length)
      for record in records do IO.println (recordLine record)
      return 0

/-- `import`: adds peers to the book. -/
def importPeers (home : String) (settings : Settings) (arguments : List String) : IO UInt32 := do
  let some (values, operands) ← commandFlags "import" [("services", .text)] arguments | return 2
  if operands.isEmpty then
    return ← fail "Usage: addrbook import [--services <mask>] <multiaddr>..."
  let services ← match ServiceMask.parse ((textFlag values "services").getD "NETWORK") with
    | .ok mask => pure mask
    | .error error => return ← fail ("--services: " ++ error.message)
  let mut peers : List Endpoint := []
  for text in operands do
    match Multiaddr.endpointOf Multiaddr.library text with
    | .ok endpoint => peers := peers ++ [endpoint]
    | .error error => return ← fail (error.message text)
  let now ← clock
  match ← startNode home settings now with
  | .error message => fail message
  | .ok (before, node) =>
    let (added, node) := node.importPeers now peers services
    let node := node.stop
    writeBack before node.currentMachine.tree
    IO.println ("Imported " ++ toString added ++ " new peer(s), " ++
      toString node.service.book.size ++ " known")
    return 0

/-- `discover`: runs rounds of discovery and prints each batch. -/
def discover (home : String) (settings : Settings) (arguments : List String) : IO UInt32 := do
  let kinds := [("services", FlagKind.text), ("rounds", .integer), ("timeout", .duration)]
  let some (values, _) ← commandFlags "discover" kinds arguments | return 2
  let mut settings := settings
  if let some text := textFlag values "services" then
    unless text.isEmpty do
      match ServiceMask.parse text with
      | .ok mask =>
        settings := { settings with discovery := { settings.discovery with services := mask } }
      | .error error => return ← fail ("--services: " ++ error.message)
  let rounds := (values.reverse.findSome? fun
    | ("rounds", .integer count) => some count.toInt
    | _ => none).getD 1
  if let some timeout := values.reverse.findSome? (fun
      | ("timeout", .duration timeout) => some timeout
      | _ => none) then
    if 0 < timeout.toInt then
      settings := { settings with discovery := { settings.discovery with timeout := timeout } }
  if rounds < 1 then return ← fail "--rounds must be at least 1"
  match ← startNode home settings (← clock) with
  | .error message => fail message
  | .ok (before, node) =>
    let mut node := node
    for round in List.range rounds.toNat do
      let (answer, next) := node.getPeers
      node := next
      match answer with
      | .error error =>
        IO.eprintln ("Round " ++ toString (round + 1) ++ ": " ++ error.message)
        writeBack before node.stop.currentMachine.tree
        return 0
      | .ok peers =>
        IO.println ("Round " ++ toString (round + 1) ++ ": " ++ toString peers.length ++ " peer(s)")
        for peer in peers do
          match Multiaddr.ofEndpoint Multiaddr.library peer with
          | .ok multiaddr => IO.println ("  " ++ Multiaddr.library.text multiaddr)
          | .error _ => IO.println ("  " ++ peer.render)
    let servedLine := "Served " ++ toString node.service.book.servedCount ++
      " distinct peer(s), " ++ toString node.service.book.size ++ " known"
    writeBack before node.stop.currentMachine.tree
    IO.println servedLine
    return 0

/-- Reads the input until it ends. -/
partial def awaitEnd (input : IO.FS.Stream) : IO Unit := do
  let line ← input.getLine
  unless line.isEmpty do awaitEnd input

/-- `run`: keeps a node up until the input ends, then stops it. -/
def run (home : String) (settings : Settings) : IO UInt32 := do
  match ← startNode home settings (← clock) with
  | .error message => fail message
  | .ok (before, node) =>
    unless node.metricsAddr.isEmpty do
      IO.println ("Metrics: http://" ++ node.metricsAddr ++ "/metrics")
    awaitEnd (← IO.getStdin)
    writeBack before node.stop.currentMachine.tree
    return 0

end PeerBook.Command

open PeerBook PeerBook.Command in
/-- Reads the command line, settles the settings and runs the command. -/
def main (arguments : List String) : IO UInt32 := do
  let home := (← IO.getEnv "HOME").getD ""
  match CommandLine.parse arguments with
  | .error error =>
    IO.eprint (usageText home)
    fail error.message
  | .ok line =>
    if line.help then
      IO.eprint (usageText home)
      return 0
    if line.version then
      IO.println ("addrbook " ++ Settings.version)
      return 0
    let some command := line.args.head?
      | IO.eprint (usageText home); return 1
    let configPath ← absolute (Settings.configPath home line)
    let file := match ← probe configPath with
      | some (.file bytes) => String.fromUTF8? ⟨bytes.toArray⟩
      | _ => none
    match Settings.load home line file with
    | .error error => fail error.message
    | .ok settings =>
      let logFile := settings.log.file
      let logFile ← if logFile.isEmpty || logFile.startsWith "~" then pure logFile
        else absolute logFile
      let settings := { settings with
        dataDir := ← absolute settings.dataDir, log := { settings.log with file := logFile } }
      if settings.discovery.backend == "badger" then
        return ← fail "the badger backend is not available from the command line"
      let rest := line.args.drop 1
      match command with
      | "init" => init home settings
      | "dump" => dump settings rest
      | "import" => importPeers home settings rest
      | "discover" => discover home settings rest
      | "run" => run home settings
      | "help" =>
        IO.eprint (usageText home)
        return 0
      | other =>
        IO.eprint (usageText home)
        fail ("unknown command " ++ Text.quote other)
