import RunSweep.CommandLine.Basic
import RunSweep.CommandLine.Usage
import RunSweep.Decimal.Reading
import RunSweep.Text.Controls

/-!
# Reading a command line

Words are read from left to right. A setting's value stands in the same word behind an equals sign or is
the next word. A value in a word of its own is only *held* at first: it is read, and the rule that every
option stands once is applied to it, when the next known option is accepted or the words end. So a word
that is no option at all is reported before a value that is wrong.

A word that starts with a dash is never a value, unless it is a dash alone. Behind `--`, no word is
allowed.
-/

namespace RunSweep

/-- What is wrong with a command line. -/
inductive Misuse where
  | unexpectedArgument (shown : String)
  | unexpectedValue (switch : Switch) (shown : String)
  | missingValue (setting : Setting)
  | repeated (title : String)
  | illFormedText
  | invalidNumber (setting : Setting) (text : String) (fault : NumberFault)
  | invalidPolicy (setting : Setting) (text : String) (unknown : LaunchPolicy.Unknown)
  | invalidLevel (setting : Setting) (shown : String)

/-- What a complaint is about, emphasised. -/
def blamed (text : String) : String :=
  Controls.emphasised 33 text

/-- What can be typed as it stands, emphasised. -/
def literal (text : String) : String :=
  Controls.emphasised 1 text

/-- A value as it is quoted in a complaint. -/
def invalidValue (setting : Setting) (shown : String) : String :=
  "invalid value '" ++ blamed shown ++ "' for '" ++ literal setting.title ++ "'"

/-- The wording of a complaint, for a terminal. -/
def Misuse.message : Misuse → String
  | unexpectedArgument shown => "unexpected argument '" ++ blamed shown ++ "' found"
  | unexpectedValue switch shown =>
      "unexpected value '" ++ blamed shown ++ "' for '" ++ literal switch.title
        ++ "' found; no more were expected"
  | missingValue setting =>
      "a value is required for '" ++ blamed setting.title ++ "' but none was supplied"
  | repeated title => "the argument '" ++ blamed title ++ "' cannot be used multiple times"
  | illFormedText => "invalid UTF-8 was detected in one or more arguments"
  | invalidNumber setting text fault => invalidValue setting text ++ ": " ++ fault.message
  | invalidPolicy setting text unknown => invalidValue setting text ++ ": " ++ unknown.message
  | invalidLevel setting shown => invalidValue setting shown

/-- A complaint with what stands around it, for a terminal. -/
def Misuse.complaint (m : Misuse) : String :=
  Controls.emphasised 31 "error:" ++ " " ++ m.message
    ++ "\n\nFor more information, try '" ++ literal Switch.help.title ++ "'.\n"

/-- The first line of a text, without its line end. -/
def firstLine (text : String) : String :=
  let line := text.toList.takeWhile (· != '\n')
  String.ofList (if line.getLast? == some '\r' then line.dropLast else line)

/-- Why the program ends with its command line: it asks for a text, or it is misused. -/
inductive EarlyExit where
  | help (complete : Bool)
  | version
  | misuse (reason : Misuse)

namespace EarlyExit

/-- The text printed: a help text in full, of a complaint the first line, without terminal controls. A
control sequence that a policy leaves open reaches beyond the complaint itself. -/
def text : EarlyExit → String
  | help complete => if complete then Usage.long else Usage.short
  | version => Usage.version
  | misuse reason => firstLine (Controls.strip reason.complaint)

/-- The exit code. -/
def code : EarlyExit → UInt8
  | help _ | version => 0
  | misuse _ => 2

end EarlyExit

namespace Setting

/-- The setting of this long name. -/
def ofLong? (name : Bytes) : Option Setting :=
  all.find? fun s => Utf8.encode s.long == name

/-- A value that must be a path that is not empty. -/
def readPath (s : Setting) (value : Bytes) : Except Misuse Path :=
  if value.isEmpty then .error (.missingValue s) else .ok ⟨value⟩

/-- A value that must be well-formed text. -/
def readText (value : Bytes) : Except Misuse String :=
  match Utf8.decode? value with
  | some text => .ok text
  | none => .error .illFormedText

/-- A value that must be a float. -/
def readFloat (s : Setting) (value : Bytes) : Except Misuse Float := do
  let text ← readText value
  (RunSweep.readFloat text).mapError (.invalidNumber s text)

/-- A value that must be a count. -/
def readCount (s : Setting) (value : Bytes) : Except Misuse UInt64 := do
  let text ← readText value
  let n ← (readNatural UInt64.size text).mapError (.invalidNumber s text)
  return .ofNat n

/-- A value that must be a policy. -/
def readPolicy (s : Setting) (value : Bytes) : Except Misuse LaunchPolicy := do
  let text ← readText value
  (LaunchPolicy.read text).mapError (.invalidPolicy s text)

/-- A value that must be the exact name of a log level. -/
def readLevel (s : Setting) (value : Bytes) : Except Misuse LogLevel :=
  if value.isEmpty then .error (.missingValue s)
  else
    match (Utf8.decode? value).bind LogLevel.ofName? with
    | some level => .ok level
    | none => .error (.invalidLevel s (Utf8.lossy value))

/-- The arguments with a setting's value put in. -/
def put (s : Setting) (value : Bytes) (a : Arguments) : Except Misuse Arguments :=
  match s with
  | config => do return { a with config := some (← s.readPath value) }
  | binary => do return { a with binary := some (← s.readPath value) }
  | threshold => do return { a with threshold := some (← s.readFloat value) }
  | sweepThreshold => do return { a with sweepThreshold := some (← s.readFloat value) }
  | dir => do return { a with dir := some (← s.readPath value) }
  | store => do return { a with store := some (← s.readPath value) }
  | name => do return { a with name := some (← readText value) }
  | maxIterations => do return { a with maxIterations := some (← s.readCount value) }
  | onLaunchFailure => do return { a with onLaunchFailure := some (← s.readPolicy value) }
  | logLevel => do return { a with logLevel := some (← s.readLevel value) }

end Setting

namespace Switch

/-- The switch of this long name. -/
def ofLong? (name : Bytes) : Option Switch :=
  all.find? fun s => (s.long :: s.aliases).any (Utf8.encode · == name)

/-- The switch of this letter. -/
def ofShort? (c : Char) : Option Switch :=
  all.find? (·.short? == some c)

/-- Turn a switch on. -/
def turnOn (s : Switch) (a : Arguments) (complete : Bool) : Except EarlyExit Arguments :=
  match s with
  | allowModified => .ok { a with allowModified := true }
  | noCoincidence => .ok { a with noCoincidence := true }
  | once => .ok { a with once := true }
  | dryRun => .ok { a with dryRun := true }
  | help => .error (.help complete)
  | version => .error .version

end Switch

/-- **A command line read up to some word**: what it asked for so far, the titles of the options
accepted, and a setting whose value is still held or due. -/
structure Reader where
  arguments : Arguments := {}
  accepted : List String := []
  held : Option (Setting × Option Bytes) := none

namespace Reader

/-- Accept an option by its title, which may stand only once. -/
def accept (r : Reader) (title : String) : Except EarlyExit Reader :=
  if r.accepted.contains title then .error (.misuse (.repeated title))
  else .ok { r with accepted := title :: r.accepted }

/-- Accept a setting with the value given to it. -/
def set (r : Reader) (s : Setting) (value : Option Bytes) : Except EarlyExit Reader := do
  let some value := value | throw (.misuse (.missingValue s))
  let r ← r.accept s.title
  let arguments ← (s.put value r.arguments).mapError .misuse
  return { r with arguments }

/-- Accept the setting that is held, if any. -/
def settle (r : Reader) : Except EarlyExit Reader :=
  match r.held with
  | none => .ok r
  | some (s, value) => { r with held := none }.set s value

/-- Accept a switch, written long if `complete`. -/
def flip (r : Reader) (s : Switch) (complete : Bool) : Except EarlyExit Reader := do
  let r ← r.settle
  let r ← r.accept s.title
  let arguments ← s.turnOn r.arguments complete
  return { r with arguments }

/-- A word that is no option: the value that is due, if one is. -/
def value (r : Reader) (word : Bytes) : Except EarlyExit Reader :=
  match r.held with
  | some (s, none) => .ok { r with held := some (s, some word) }
  | _ => .error (.misuse (.unexpectedArgument (Utf8.lossy word)))

/-- A word behind two dashes: a name, and a value if there is an equals sign. -/
def long (r : Reader) (body : Bytes) : Except EarlyExit Reader := do
  let name := body.takeWhile (· != 0x3D)
  let attached := (body.dropWhile (· != 0x3D)).tail?
  match Setting.ofLong? name, Switch.ofLong? name with
  | some s, _ =>
      let r ← r.settle
      match attached with
      | some _ => r.set s attached
      | none => return { r with held := some (s, none) }
  | none, some s =>
      match attached with
      | some text => throw (.misuse (.unexpectedValue s (Utf8.lossy text)))
      | none => r.flip s true
  | none, none => throw (.misuse (.unexpectedArgument ("--" ++ Utf8.lossy name)))

/-- The letters behind a single dash, each a switch. Where the word stops being text, the rest of it is
one letter. -/
def letters (r : Reader) : List Utf8.Piece → Except EarlyExit Reader
  | [] => .ok r
  | .char c :: rest =>
      match Switch.ofShort? c with
      | some s => do (← r.flip s false).letters rest
      | none => .error (.misuse (.unexpectedArgument (String.ofList ['-', c])))
  | .illFormed bytes :: rest =>
      .error (.misuse (.unexpectedArgument
        (String.ofList ('-' :: (Utf8.Piece.illFormed bytes :: rest).map Utf8.Piece.shown))))

/-- A word in front of any `--`. -/
def word (r : Reader) (bytes : Bytes) : Except EarlyExit Reader :=
  match bytes with
  | 0x2D :: 0x2D :: body => r.long body
  | 0x2D :: b :: body => r.letters (Utf8.pieces (b :: body))
  | _ => r.value bytes

/-- Read the words to their end. -/
def finish (r : Reader) : List Bytes → Except EarlyExit Arguments
  | [] => return (← r.settle).arguments
  | w :: ws =>
      if w = [0x2D, 0x2D] then
        match ws with
        | [] => return (← r.settle).arguments
        | extra :: _ => .error (.misuse (.unexpectedArgument (Utf8.lossy extra)))
      else do (← r.word w).finish ws

end Reader

/-- What a command line asks for. -/
def Arguments.read (words : List Bytes) : Except EarlyExit Arguments :=
  ({} : Reader).finish words

end RunSweep
