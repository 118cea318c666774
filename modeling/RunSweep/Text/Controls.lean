import RunSweep.Text.Utf8

/-!
# Text without terminal controls

What is left of a text when the sequences that control a terminal are taken out: everything from an
escape character to the end of its sequence, and every control character that is no white space.

`emphasised` puts such sequences in. The one behind a text also ends a sequence that the text itself has
left open.
-/

namespace RunSweep.Controls

/-- A text in one of the terminal's styles. -/
def emphasised (style : Nat) (text : String) : String :=
  "\x1b[" ++ toString style ++ "m" ++ text ++ "\x1b[0m"

/-- Where a reader of a text stands. -/
inductive Mode where
  /-- In text that is shown. -/
  | plain
  /-- Behind an escape character. -/
  | escape
  /-- In a sequence whose last character is yet to come. -/
  | sequence
  /-- In a sequence with parameters, behind `[`. -/
  | parameters
  /-- In a title, behind `]`. -/
  | title
  /-- In the head of a message to the device, behind `P`. -/
  | device
  /-- In the parameters of that head. -/
  | deviceParameters
  /-- In the last part of that head. -/
  | deviceTail
  /-- In a message or a string. -/
  | string
  deriving DecidableEq

/-- Control characters that are white space. -/
def isSpace (c : Char) : Bool :=
  c = '\t' || c = '\n' || c = '\x0c' || c = '\r'

/-- What a character behind an escape character opens. -/
def opened (c : Char) : Mode :=
  if c < '0' then .sequence
  else
    match c with
    | '[' => .parameters
    | ']' => .title
    | 'P' => .device
    | 'X' | '^' | '_' => .string
    | _ => .plain

/-- Where the head of a message to the device goes on behind a character; `tail` if its parameters are
over, `started` if they have begun. -/
def headed (started tail : Bool) (c : Char) : Mode :=
  if '@' ≤ c then .string
  else if c < '0' then .deviceTail
  else if tail || c = ':' || (started && '<' ≤ c) then .string
  else .deviceParameters

/-- Whether the last of the bytes that end a string is among those of a character. -/
def endsString (c : Char) : Bool :=
  (Utf8.encode (String.singleton c)).contains 0x9C

/-- Where the reader stands behind a character outside of ASCII. -/
def beyond (m : Mode) (c : Char) : Mode :=
  if m = .string && endsString c then .plain else m

/-- Where the reader stands behind a control character, and whether it is shown. -/
def control (m : Mode) (c : Char) : Mode × Bool :=
  match m with
  | .device | .deviceParameters | .deviceTail | .string => (m, false)
  | .title => (if c = '\x07' then .plain else .title, false)
  | .plain | .escape | .sequence | .parameters =>
      if isSpace c then (.plain, true) else (m, false)

/-- Where the reader stands behind a character, and whether the character is shown. -/
def step (m : Mode) (c : Char) : Mode × Bool :=
  if '\x80' ≤ c then (beyond m c, m = .plain)
  else if c = '\x1b' then (.escape, false)
  else if c = '\x18' || c = '\x1a' then (.plain, false)
  else if c < ' ' then control m c
  else if c = '\x7f' then (m, false)
  else
    match m with
    | .plain => (.plain, true)
    | .escape => (opened c, false)
    | .sequence => (if c < '0' then .sequence else .plain, false)
    | .parameters => (if c < '@' then .parameters else .plain, false)
    | .title => (.title, false)
    | .device => (headed false false c, false)
    | .deviceParameters => (headed true false c, false)
    | .deviceTail => (headed true true c, false)
    | .string => (.string, false)

/-- The characters that are shown, from a standing on. -/
def shown (m : Mode) : List Char → List Char
  | [] => []
  | c :: cs =>
      let (next, visible) := step m c
      if visible then c :: shown next cs else shown next cs

/-- **A text without terminal controls.** -/
def strip (text : String) : String :=
  String.ofList (shown .plain text.toList)

end RunSweep.Controls
