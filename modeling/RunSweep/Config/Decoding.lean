import RunSweep.Config.Basic
import RunSweep.Decimal.Shortest
import RunSweep.Text.Quoted
import RunSweep.Toml.Document

/-!
# Configurations from documents

`Draft.ofDocument` reads a configuration from a TOML text. A section that is not given is that of the
default configuration, and a field that is not given has a default of its own. What is not known is passed
over. Fields are looked at in the order of their names, which decides between two mistakes.

A section may also be written as an array, with its fields in their canonical order; then those at the
end may be left out, and what follows the last one is not looked at.
-/

namespace RunSweep

/-- The policies' names, as messages list them. -/
def LaunchPolicy.keywords : String :=
  "`" ++ abort.keyword ++ "` or `" ++ carryOn.keyword ++ "`"

/-- What is wrong with a value. -/
inductive Mismatch where
  | type (found expected : String)
  | value (found expected : String)
  | variant (found : String)
  | notVariant
  | noVariant
  | severalVariants
  | notPayload (found : String)
  | tableNotEmpty
  | arrayNotEmpty
  /-- A number that cannot be read, or not as one of 64 bits. -/
  | range
  deriving DecidableEq

/-- The wording of a mismatch. -/
def Mismatch.message : Mismatch → String
  | type found expected => "invalid type: " ++ found ++ ", expected " ++ expected
  | value found expected => "invalid value: " ++ found ++ ", expected " ++ expected
  | variant found => "unknown variant `" ++ found ++ "`, expected " ++ LaunchPolicy.keywords
  | notVariant => "wanted string or table"
  | noVariant => "wanted exactly 1 element, found 0 elements"
  | severalVariants => "wanted exactly 1 element, more than 1 element"
  | notPayload found => "expected table, found " ++ found
  | tableNotEmpty => "expected empty table"
  | arrayNotEmpty => "expected empty array"
  | range => "number out of range"

/-- Why a document is no configuration. -/
inductive DocumentError where
  | malformed
  | mismatch (reason : Mismatch)
  deriving DecidableEq

/-- The wording of the error; a malformed document has none but this. -/
def DocumentError.message : DocumentError → String
  | malformed => "malformed document"
  | mismatch reason => reason.message

namespace Toml.Value

/-- A float with a point, as messages show it. -/
def floatText (x : Float) : String :=
  let text := renderFloat x
  if x.isNaN || x.isInf || text.toList.contains '.' then text else text ++ ".0"

/-- A value as messages describe it. -/
def describe : Value → String
  | string text => "string " ++ Quoted.ofText text
  | integer n => "integer `" ++ toString n ++ "`"
  | float x => "floating point `" ++ floatText x ++ "`"
  | unreadable => "number"
  | boolean b => "boolean `" ++ toString b ++ "`"
  | array .. => "sequence"
  | datetime | table .. => "map"

/-- The refusal of a value for its type. -/
def refuse {α : Type} (v : Value) (expected : String) : Except Mismatch α :=
  match v with
  | unreadable => .error .range
  | _ => .error (.type v.describe expected)

/-- An integer of at most 64 bits, with or without a sign. -/
def asInteger (n : Int) : Except Mismatch Int :=
  if Int64.minValue.toInt ≤ n && n < UInt64.size then .ok n else .error .range

/-- A number, as a float; an integer becomes the nearest one. -/
def asFloat : Value → Except Mismatch Float
  | float x => .ok x
  | integer n => do
      let n ← asInteger n
      let size := (UInt64.ofNat n.natAbs).toFloat
      return if n < 0 then -size else size
  | v => v.refuse "f64"

/-- An integer that is not negative. -/
def asCount : Value → Except Mismatch UInt64
  | integer n => do
      let n ← asInteger n
      if n < 0 then throw (.value (integer n).describe "u64")
      return .ofNat n.toNat
  | v => v.refuse "u64"

/-- An integer with a sign. -/
def asSigned : Value → Except Mismatch Int64
  | integer n => do
      let n ← asInteger n
      if Int64.maxValue.toInt < n then throw (.value (integer n).describe "i64")
      return .ofInt n
  | v => v.refuse "i64"

/-- A boolean. -/
def asBool : Value → Except Mismatch Bool
  | boolean b => .ok b
  | v => v.refuse "a boolean"

/-- A text. -/
def asText : Value → Except Mismatch String
  | string text => .ok text
  | v => v.refuse "a string"

/-- A path. -/
def asPath : Value → Except Mismatch Path
  | string text => .ok (.ofText text)
  | v => v.refuse "path string"

/-- A list of texts. -/
def asTexts : Value → Except Mismatch (List String)
  | array _ items => items.mapM asText
  | v => v.refuse "a sequence"

/-- The policy of a name. -/
def policyNamed (name : String) : Except Mismatch LaunchPolicy :=
  if name = LaunchPolicy.abort.keyword then .ok .abort
  else if name = LaunchPolicy.carryOn.keyword then .ok .carryOn
  else .error (.variant name)

/-- What may stand behind the name of a policy: an empty table or an empty array. -/
def checkPayload : Value → Except Mismatch Unit
  | table _ entries => if entries.isEmpty then .ok () else .error .tableNotEmpty
  | array _ items => if items.isEmpty then .ok () else .error .arrayNotEmpty
  | string _ => .error (.notPayload "string")
  | integer _ => .error (.notPayload "integer")
  | float _ | unreadable => .error (.notPayload "float")
  | boolean _ => .error (.notPayload "boolean")
  | datetime => .error (.notPayload "datetime")

/-- A policy: its name, or a table with its name as the only key. -/
def asPolicy : Value → Except Mismatch LaunchPolicy
  | string name => policyNamed name
  | table _ [] => .error .noVariant
  | table _ [(name, payload)] => do
      let policy ← policyNamed name
      checkPayload payload
      return policy
  | table .. => .error .severalVariants
  | _ => .error .notVariant

end Toml.Value

open Toml (Value Entries)

/-- **The fields of a section**, by name or by place. -/
inductive Fields where
  | named (entries : Entries)
  | placed (items : List Value)

/-- The fields that a value holds. A date is a table without a field that anyone knows. -/
def Toml.Value.fields (title : String) : Value → Except Mismatch Fields
  | .table _ entries => .ok (.named entries)
  | .datetime => .ok (.named [])
  | .array _ items => .ok (.placed items)
  | v => v.refuse title

/-- The value of a field, if it is given. -/
def Fields.get? (fields : Fields) (names : List String) (name : String) : Option Value :=
  match fields with
  | named entries => entries.lookup name
  | placed items => items[names.idxOf name]?

/-- A field, or its default. -/
def Fields.read {α : Type} (fields : Fields) (names : List String) (name : String)
    (convert : Value → Except Mismatch α) (missing : α) : Except Mismatch α :=
  match fields.get? names name with
  | some v => convert v
  | none => .ok missing

/-- A field that may be left open. -/
def some? {α : Type} (convert : Value → Except Mismatch α) (v : Value) :
    Except Mismatch (Option α) :=
  (convert v).map some

/-- What is passed over must at least be readable. -/
def Fields.checkUnknown (fields : Fields) (names : List String) : Except Mismatch Unit :=
  match fields with
  | named entries =>
      if Toml.allEntries Toml.fitsDoubleWord (entries.filter fun (k, _) => !names.contains k) then
        .ok ()
      else .error .range
  | placed _ => .ok ()

/-- The first mismatch among the fields: fields given by name are looked at in the order of the names,
fields given by place in their own. -/
def Fields.check (fields : Fields) (results : List (String × Except Mismatch Unit)) :
    Except Mismatch Unit := do
  let inOrder :=
    match fields with
    | named _ => results.mergeSort fun a b => a.1 ≤ b.1
    | placed _ => results
  inOrder.forM (·.2)
  fields.checkUnknown (results.map (·.1))

/-- Whether a value could be read. -/
def outcome {α : Type} (r : Except Mismatch α) : Except Mismatch Unit :=
  r.map fun _ => ()

namespace Acquisition

/-- The names of the fields, in canonical order. -/
def fieldNames : List String :=
  ["binary", "threshold", "duration_secs", "nrun", "coincidence", "name", "allow_modified",
    "extra_args"]

/-- Read the section. -/
def ofValue (v : Value) : Except Mismatch Acquisition := do
  let fields ← v.fields "struct AcquisitionSection"
  let binary := fields.read fieldNames "binary" Value.asPath defaultBinary
  let threshold := fields.read fieldNames "threshold" Value.asFloat defaultThreshold
  let durationSecs := fields.read fieldNames "duration_secs" Value.asCount defaultDurationSecs
  let nrun := fields.read fieldNames "nrun" Value.asSigned defaultNrun
  let coincidence := fields.read fieldNames "coincidence" Value.asBool true
  let name := fields.read fieldNames "name" (some? Value.asText) none
  let allowModified := fields.read fieldNames "allow_modified" Value.asBool false
  let extraArgs := fields.read fieldNames "extra_args" Value.asTexts []
  fields.check (fieldNames.zip
    [outcome binary, outcome threshold, outcome durationSecs, outcome nrun, outcome coincidence,
      outcome name, outcome allowModified, outcome extraArgs])
  return { binary := ← binary, threshold := ← threshold, durationSecs := ← durationSecs,
           nrun := ← nrun, coincidence := ← coincidence, name := ← name,
           allowModified := ← allowModified, extraArgs := ← extraArgs }

end Acquisition

namespace SweepSettings

/-- The names of the fields, in canonical order. -/
def fieldNames : List String :=
  ["working_dir", "archive_dir", "threshold_mb", "create_archive_dir"]

/-- Read the section. -/
def ofValue (v : Value) : Except Mismatch SweepSettings := do
  let fields ← v.fields "struct SweepSection"
  let workingDir := fields.read fieldNames "working_dir" Value.asPath defaultWorkingDir
  let archiveDir := fields.read fieldNames "archive_dir" Value.asPath defaultArchiveDir
  let threshold := fields.read fieldNames "threshold_mb" (some? Value.asFloat) none
  let createArchiveDir := fields.read fieldNames "create_archive_dir" Value.asBool true
  fields.check (fieldNames.zip
    [outcome workingDir, outcome archiveDir, outcome threshold, outcome createArchiveDir])
  return { workingDir := ← workingDir, archiveDir := ← archiveDir, threshold := ← threshold,
           createArchiveDir := ← createArchiveDir }

end SweepSettings

namespace Repetition

/-- The names of the fields, in canonical order. -/
def fieldNames : List String :=
  ["single_shot", "max_iterations", "on_launch_failure"]

/-- Read the section. -/
def ofValue (v : Value) : Except Mismatch Repetition := do
  let fields ← v.fields "struct LoopSection"
  let singleShot := fields.read fieldNames "single_shot" Value.asBool false
  let maxIterations := fields.read fieldNames "max_iterations" (some? Value.asCount) none
  let onLaunchFailure := fields.read fieldNames "on_launch_failure" Value.asPolicy .abort
  fields.check (fieldNames.zip
    [outcome singleShot, outcome maxIterations, outcome onLaunchFailure])
  return { singleShot := ← singleShot, maxIterations := ← maxIterations,
           onLaunchFailure := ← onLaunchFailure }

end Repetition

namespace Draft

/-- The names of the sections, in canonical order. -/
def sectionNames : List String :=
  ["acquisition", "sweep", "loop"]

/-- Read a configuration from the table of a document. -/
def ofEntries (entries : Entries) : Except Mismatch Draft := do
  let fields := Fields.named entries
  let acquisition := fields.read sectionNames "acquisition" Acquisition.ofValue {}
  let sweep := fields.read sectionNames "sweep" SweepSettings.ofValue {}
  let repetition := fields.read sectionNames "loop" Repetition.ofValue {}
  fields.check (sectionNames.zip [outcome acquisition, outcome sweep, outcome repetition])
  return { acquisition := ← acquisition, sweep := ← sweep, repetition := ← repetition }

/-- **Read a configuration from a document.** A mismatch is told only if every number of the document
can be read and fits in 64 bits; else the document counts as malformed. -/
def ofDocument (text : String) : Except DocumentError Draft :=
  match Toml.parse? text with
  | none => .error .malformed
  | some entries =>
      match ofEntries entries with
      | .ok draft => .ok draft
      | .error reason =>
          .error (if Toml.allEntries Toml.fitsWord entries then .mismatch reason else .malformed)

end Draft

end RunSweep
