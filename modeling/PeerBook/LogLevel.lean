import PeerBook.Text.CaseMap

/-!
# Log levels

The five levels a log can be set to. Their names are read without regard to case; any other
name is not a level, and a log asked for one runs at `info`.
-/

namespace PeerBook

/-- How much a log records. -/
inductive LogLevel where
  | trace
  | debug
  | info
  | warn
  | error
  deriving DecidableEq, Repr

namespace LogLevel

/-- The name of a level. -/
def name : LogLevel → String
  | .trace => "trace"
  | .debug => "debug"
  | .info => "info"
  | .warn => "warn"
  | .error => "error"

/-- The level a name stands for, read without regard to case. -/
def ofName? (text : String) : Option LogLevel :=
  match Text.lowerCase text with
  | "trace" => some .trace
  | "debug" => some .debug
  | "info" => some .info
  | "warn" => some .warn
  | "error" => some .error
  | _ => none

/-- Whether a name is a level. -/
def isValid (text : String) : Bool := (ofName? text).isSome

/-- The level of a name, `info` for a name that is none. -/
def ofName (text : String) : LogLevel := (ofName? text).getD .info

end LogLevel

end PeerBook
