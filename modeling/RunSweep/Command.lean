import RunSweep.Config.Validation

/-!
# The acquisition command

A `Command` is a program and its argument list, passed on without a shell. `Config.command` puts the
settings in their canonical order. `Command.render` shows a command to a reader: a word that is empty or
holds a blank or a quote stands between single quotes.
-/

namespace RunSweep

/-- A program and its arguments. -/
structure Command where
  program : Path
  args : List Bytes := []
  deriving DecidableEq, Inhabited

namespace Command

/-- An argument that is known as text. -/
def word (text : String) : Bytes :=
  Utf8.encode text

/-- Whether a word is shown between quotes. -/
def needsQuotes (cs : List Char) : Bool :=
  cs.isEmpty || cs.any fun c => isBlank c || c == '\'' || c == '"'

/-- A character between single quotes; a quote closes them, stands escaped, and opens them again. -/
def quoteChar (c : Char) : List Char :=
  if c = '\'' then ['\'', '\\', '\'', '\''] else [c]

/-- A word as shown. -/
def renderWord (cs : List Char) : List Char :=
  if needsQuotes cs then '\'' :: cs.flatMap quoteChar ++ ['\''] else cs

/-- The program and the arguments. -/
def words (c : Command) : List Bytes :=
  c.program.bytes :: c.args

/-- The command as shown: its words with one space in between. -/
def render (c : Command) : String :=
  String.ofList
    ([' '].intercalate (c.words.map fun bytes => renderWord (Utf8.lossy bytes).toList))

end Command

/-- A flag with its value. -/
def flagValue (flag : String) (value : Bytes) : List Bytes :=
  [Command.word flag, value]

/-- The command that a configuration describes: the threshold, the duration and the number of runs, the
coincidence switch, the two directories, then the name, the permission and the extra words. -/
def Config.command (c : Config) : Command :=
  let acq := c.acquisition
  { program := acq.binary
    args :=
      flagValue "-threshold" (Command.word (renderFloat acq.threshold))
        ++ flagValue "-duration" (Command.word (toString acq.durationSecs.toNat))
        ++ flagValue "-nrun" (Command.word (toString acq.nrun.toInt))
        ++ (if acq.coincidence then [Command.word "-coincidence"] else [])
        ++ flagValue "-dir" c.sweep.workingDir.bytes
        ++ flagValue "-store" c.sweep.archiveDir.bytes
        ++ (acq.name.map fun name => flagValue "-name" (Command.word name)).getD []
        ++ (if acq.allowModified then [Command.word "-allowmod"] else [])
        ++ acq.extraArgs.map Command.word }

end RunSweep
