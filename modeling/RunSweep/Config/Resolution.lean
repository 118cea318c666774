import RunSweep.Config.Decoding
import RunSweep.Disk.Calls
import RunSweep.RunError

/-!
# The configuration in force

Settings come from the built-in defaults, then from a configuration file, then from overrides. A file
that is named must be there; without a name the usual file is taken if there is one. What comes out is
validated once, at the end.
-/

namespace RunSweep

/-- The configuration file that is taken without being named. -/
def defaultConfigPath : Path := .ofText "Daqsweep.toml"

/-- The draft in a configuration file. -/
def Draft.load (d : Disk) (path : Path) : Except RunError Draft := do
  let text ← (d.readText path).mapError .io
  (Draft.ofDocument text).mapError .document

/-- The draft as a configuration. -/
def Draft.accept (draft : Draft) : Except RunError Config :=
  draft.validate.mapError .invalid

/-- The configuration in a file. -/
def Config.load (d : Disk) (path : Path) : Except RunError Config := do
  (← Draft.load d path).accept

/-- The draft to start from: that of the named file, else that of the usual file, else the defaults. -/
def Draft.base (d : Disk) (path : Option Path) : Except RunError Draft :=
  match path with
  | some path => Draft.load d path
  | none => if d.isFile defaultConfigPath then Draft.load d defaultConfigPath else .ok {}

/-- **The configuration in force.** -/
def Config.resolve (d : Disk) (path : Option Path) (o : Overrides) : Except RunError Config := do
  ((← Draft.base d path).override o).accept

end RunSweep
