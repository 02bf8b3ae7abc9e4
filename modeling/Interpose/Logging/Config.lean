import Interpose.Failure
import Interpose.Text.Blank
import Interpose.Text.LetterCase
import Interpose.Toml.Record

namespace Interpose

inductive LogLevel where
  | trace
  | debug
  | info
  | warn
  | error
  deriving DecidableEq, Repr

namespace LogLevel

def label : LogLevel → String
  | trace => "trace"
  | debug => "debug"
  | info => "info"
  | warn => "warn"
  | error => "error"

def ofLabel? : String → Option LogLevel
  | "trace" => some trace
  | "debug" => some debug
  | "info" => some info
  | "warn" => some warn
  | "error" => some error
  | _ => none

def parse (s : String) : Except ContainerError LogLevel :=
  let name := Text.lowerAscii (Text.trim s)
  match ofLabel? (if name = "warning" then "warn" else name) with
  | some level => .ok level
  | none => .error (.config ("unknown log level '" ++ s ++ "'"))

end LogLevel

inductive LogFormat where
  -- One line for each event.
  | compact
  -- With the names of threads.
  | full
  | json
  deriving DecidableEq, Repr

namespace LogFormat

def ofName? : String → Option LogFormat
  | "compact" => some compact
  | "full" => some full
  | "json" => some json
  | _ => none

def parse (s : String) : Except ContainerError LogFormat :=
  match ofName? (Text.lowerAscii (Text.trim s)) with
  | some format => .ok format
  | none => .error (.config ("unknown log format '" ++ s ++ "'"))

def label : LogFormat → String
  | compact => "Compact"
  | full => "Full"
  | json => "Json"

end LogFormat

structure LoggingConfig where
  level : LogLevel
  -- The level of weaving, if it differs.
  weaving : Option LogLevel
  format : LogFormat
  showTarget : Bool
  filter : Option String
  deriving DecidableEq, Repr

namespace LoggingConfig

def default : LoggingConfig where
  level := .info
  weaving := none
  format := .compact
  showTarget := false
  filter := none

def ofRecord? (v : Toml.Value) : Option LoggingConfig := do
  let level (v : Toml.Value) : Option LogLevel := v.alternative?.bind LogLevel.ofLabel?
  return {
    level := ← v.fieldOr "level" 0 level default.level
    weaving := ← v.fieldOr "weaving" 1 (fun v => (level v).map some) default.weaving
    format := ← v.fieldOr "format" 2 (·.alternative?.bind LogFormat.ofName?) default.format
    showTarget := ← v.fieldOr "show-target" 3 Toml.Value.boolean? default.showTarget
    filter := ← v.fieldOr "filter" 4 (fun v => v.text?.map some) default.filter }

def ofDocument? (document : Toml.Value) : Option LoggingConfig :=
  document.fieldOr "logging" 0 ofRecord? default

-- Lets variables of the process override the filter and the format. A blank filter and a format
-- that is none count for nothing.
def withVariables (c : LoggingConfig) (table : List (String × String)) : LoggingConfig :=
  let filter := (table.lookup "WEFT_LOG").filter fun s => Text.trim s != ""
  let format := (table.lookup "WEFT_LOG_FORMAT").bind fun s => (LogFormat.parse s).toOption
  { c with filter := filter.or c.filter, format := format.getD c.format }

def directives (c : LoggingConfig) : String :=
  let weaving := c.weaving.map fun level => "weft_aop=" ++ level.label
  let filter := (c.filter.map Text.trim).filter (· != "")
  ",".intercalate (c.level.label :: weaving.toList ++ filter.toList)

end LoggingConfig
end Interpose
