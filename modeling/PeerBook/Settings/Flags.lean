import PeerBook.Settings
import PeerBook.Numeral

/-!
# Command-line flags

The flags before the first argument that is not one. A flag is written `-name` or `--name`;
`--` alone ends the flags and is dropped, and `-` alone or an argument not starting with `-` is
the first argument. A switch is on when written bare, or takes a truth value after `=`; any
other flag takes a value after `=` or as the next argument. Integers may carry a sign and a
base prefix (`0x`, `0o`, `0b`, or a leading `0` for octal) and must fit in 64 bits; durations
are read as durations. A later flag overrides an earlier one. An unknown flag, a malformed
one, a missing value, or a value that does not read stops the parse with an error.

`-h` and `-help` ask for help, `-c` is `-config`, and `-testnet` sets the network to
`testnet`. Some flags count only when given at all: the log format, the save interval and the
services, since their zero values mean something.
-/

namespace PeerBook

/-- What a flag takes. -/
inductive FlagKind where
  | switch
  | text
  | integer
  | duration
  deriving DecidableEq, Repr

/-- A value given to a flag. -/
inductive FlagValue where
  | switch (on : Bool)
  | text (value : String)
  | integer (value : Int64)
  | duration (value : Duration)
  deriving DecidableEq, Repr

/-- Why a value does not read. -/
inductive FlagFault where
  | malformed
  | outOfRange
  deriving DecidableEq, Repr

/-- The text of a fault. -/
def FlagFault.text : FlagFault → String
  | .malformed => "parse error"
  | .outOfRange => "value out of range"

/-- Why the flags cannot be read. -/
inductive FlagError where
  | badSyntax (argument : String)
  | undefined (name : String)
  | badSwitchValue (value name : String)
  | missingValue (name : String)
  | badValue (value name : String) (fault : FlagFault)
  deriving DecidableEq, Repr

/-- The message of flags that cannot be read. -/
def FlagError.message : FlagError → String
  | .badSyntax argument => "bad flag syntax: " ++ argument
  | .undefined name => "flag provided but not defined: -" ++ name
  | .badSwitchValue value name =>
    "invalid boolean value " ++ Text.quote value ++ " for -" ++ name ++ ": parse error"
  | .missingValue name => "flag needs an argument: -" ++ name
  | .badValue value name fault =>
    "invalid value " ++ Text.quote value ++ " for flag -" ++ name ++ ": " ++ fault.text

namespace FlagValue

/-- A truth value: `1`, `t`, `T`, `true`, `TRUE`, `True`, or their `0`, `f`, `false` kin. -/
def truth? : String → Option Bool
  | "1" | "t" | "T" | "true" | "TRUE" | "True" => some true
  | "0" | "f" | "F" | "false" | "FALSE" | "False" => some false
  | _ => none

/-- Reads the value of a flag that is not a switch. -/
def read (kind : FlagKind) (value : String) : Except FlagFault FlagValue :=
  match kind with
  | .switch => (truth? value).elim (.error .malformed) (.ok ∘ .switch)
  | .text => .ok (.text value)
  | .integer => (Numeral.readInt .prefixed 64 value).map (.integer ∘ Int64.ofInt) |>.mapError
      fun | .malformed => .malformed | .outOfRange => .outOfRange
  | .duration => (Duration.parse value).map .duration |>.mapError fun _ => .malformed

end FlagValue

/-- What an argument is to the flag reader. -/
inductive ArgumentShape where
  /-- Not a flag: the flags end here, the argument kept. -/
  | operand
  /-- `--`: the flags end here, the argument dropped. -/
  | terminator
  /-- A flag with no name or a name starting with `-` or `=`. -/
  | malformed
  /-- A flag, with the value written after `=` if any. -/
  | flag (name : String) (value : Option String)
  deriving DecidableEq, Repr

/-- The shape of an argument. -/
def ArgumentShape.of (argument : String) : ArgumentShape :=
  match argument.toList with
  | '-' :: '-' :: [] => .terminator
  | '-' :: rest@(_ :: _) =>
    let name := match rest with
      | '-' :: name => name
      | name => name
    match name with
    | [] | '-' :: _ | '=' :: _ => .malformed
    | first :: tail =>
      match tail.idxOf? '=' with
      | some index => .flag (String.ofList (first :: tail.take index))
          (some (String.ofList (tail.drop (index + 1))))
      | none => .flag (String.ofList (first :: tail)) none
  | _ => .operand

/-- Reads flags from the front of the arguments: the values given, in order, and the
arguments after the flags. -/
def readFlags (kinds : List (String × FlagKind)) :
    List String → Except FlagError (List (String × FlagValue) × List String)
  | [] => .ok ([], [])
  | argument :: rest =>
    match ArgumentShape.of argument with
    | .operand => .ok ([], argument :: rest)
    | .terminator => .ok ([], rest)
    | .malformed => .error (.badSyntax argument)
    | .flag name written =>
      match kinds.lookup name with
      | none => .error (.undefined name)
      | some .switch =>
        match written with
        | none => prepend (name, .switch true) (readFlags kinds rest)
        | some value =>
          match FlagValue.truth? value with
          | some on => prepend (name, .switch on) (readFlags kinds rest)
          | none => .error (.badSwitchValue value name)
      | some kind =>
        match written with
        | some value =>
          match FlagValue.read kind value with
          | .ok read => prepend (name, read) (readFlags kinds rest)
          | .error fault => .error (.badValue value name fault)
        | none =>
          match _h : rest with
          | value :: after =>
            match FlagValue.read kind value with
            | .ok read => prepend (name, read) (readFlags kinds after)
            | .error fault => .error (.badValue value name fault)
          | [] => .error (.missingValue name)
termination_by arguments => arguments.length
decreasing_by all_goals grind
where
  prepend (given : String × FlagValue) :
      Except FlagError (List (String × FlagValue) × List String) →
      Except FlagError (List (String × FlagValue) × List String)
    | .ok (values, operands) => .ok (given :: values, operands)
    | .error error => .error error

/-- The command line of a node: the flags given and the arguments after them. -/
structure CommandLine where
  help : Bool := false
  version : Bool := false
  network : String := ""
  testnet : Bool := false
  dataDir : String := ""
  config : String := ""
  backend : String := ""
  peersFile : String := ""
  seeds : String := ""
  seedPort : Int64 := 0
  resolver : String := ""
  services : String := ""
  timeout : Duration := ⟨0⟩
  persistInterval : Duration := ⟨0⟩
  staticPeers : String := ""
  metricsAddr : String := ""
  logLevel : String := ""
  logFile : String := ""
  logJson : Bool := false
  /-- The arguments after the flags. -/
  args : List String := []
  /-- Whether the log format was given. -/
  setLogJson : Bool := false
  /-- Whether the save interval was given. -/
  setPersistInterval : Bool := false
  /-- Whether the services were given. -/
  setServices : Bool := false
  deriving DecidableEq, Repr

namespace CommandLine

/-- The flags a node knows, and what each takes. -/
def flagKinds : List (String × FlagKind) := [
  ("help", .switch), ("h", .switch), ("version", .switch),
  ("network", .text), ("testnet", .switch), ("datadir", .text),
  ("config", .text), ("c", .text),
  ("backend", .text), ("peers-file", .text), ("seeds", .text), ("seed-port", .integer),
  ("resolver", .text), ("services", .text), ("timeout", .duration),
  ("persist-interval", .duration), ("static", .text),
  ("metrics-addr", .text),
  ("log-level", .text), ("log-file", .text), ("log-json", .switch)]

/-- The command line with one flag's value set. -/
def set (line : CommandLine) : String × FlagValue → CommandLine
  | ("help", .switch on) | ("h", .switch on) => { line with help := on }
  | ("version", .switch on) => { line with version := on }
  | ("network", .text value) => { line with network := value }
  | ("testnet", .switch on) => { line with testnet := on }
  | ("datadir", .text value) => { line with dataDir := value }
  | ("config", .text value) | ("c", .text value) => { line with config := value }
  | ("backend", .text value) => { line with backend := value }
  | ("peers-file", .text value) => { line with peersFile := value }
  | ("seeds", .text value) => { line with seeds := value }
  | ("seed-port", .integer value) => { line with seedPort := value }
  | ("resolver", .text value) => { line with resolver := value }
  | ("services", .text value) => { line with services := value, setServices := true }
  | ("timeout", .duration value) => { line with timeout := value }
  | ("persist-interval", .duration value) =>
    { line with persistInterval := value, setPersistInterval := true }
  | ("static", .text value) => { line with staticPeers := value }
  | ("metrics-addr", .text value) => { line with metricsAddr := value }
  | ("log-level", .text value) => { line with logLevel := value }
  | ("log-file", .text value) => { line with logFile := value }
  | ("log-json", .switch on) => { line with logJson := on, setLogJson := true }
  | _ => line

/-- Reads a command line. -/
def parse (arguments : List String) : Except FlagError CommandLine := do
  let (values, operands) ← readFlags flagKinds arguments
  let line := values.foldl set {}
  let line := if line.testnet then { line with network := Settings.testnet } else line
  return { line with args := operands }

end CommandLine

end PeerBook
