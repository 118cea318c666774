import RunSweep.Text.Blank
import RunSweep.Text.Lowercase
import RunSweep.Text.Utf8

/-!
# Log levels

The level comes from the command line if it is given there, else from the environment, where a value
that names no level is passed over, else it is `info`.
-/

namespace RunSweep

/-- How much is logged, from the least to the most. -/
inductive LogLevel where
  | error
  | warn
  | info
  | debug
  | trace
  deriving DecidableEq, Inhabited

namespace LogLevel

/-- The levels, from the least to the most. -/
def all : List LogLevel :=
  [error, warn, info, debug, trace]

/-- The name of a level. -/
def name : LogLevel → String
  | error => "error"
  | warn => "warn"
  | info => "info"
  | debug => "debug"
  | trace => "trace"

/-- The level of exactly this name. -/
def ofName? (text : String) : Option LogLevel :=
  all.find? (·.name == text)

/-- The level that an environment value names, in any letter case and with blanks around it;
`warning` is another name of `warn`. -/
def ofSetting? (text : String) : Option LogLevel :=
  let word := lowercase (trim text)
  if word = "warning" then some warn else ofName? word

/-- The level in force, given the command line's and the environment's. -/
def resolve (chosen : Option LogLevel) (setting : Option Bytes) : LogLevel :=
  (chosen <|> (setting.bind Utf8.decode?).bind ofSetting?).getD info

end LogLevel

end RunSweep
