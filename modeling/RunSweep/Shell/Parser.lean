import RunSweep.Shell.Token

/-!
# Commands of a script

`parse?` reads the tokens of a script as a command. Reserved words count only where a command may start,
and only without quotes.

This is a part of the machine's shell, of which nothing is claimed.
-/

namespace RunSweep.Shell

/-- A reader of something at the front of the tokens. -/
abbrev Parse := StateT (List Token) Option

/-- The next token, which is left there. -/
def peek? : Parse (Option Token) :=
  return (← get).head?

/-- Leave out the next token. -/
def drop : Parse Unit :=
  modify List.tail

/-- The reserved word that comes next, if one does. -/
def reserved? : Parse (Option String) := do
  match ← peek? with
  | some (.word _ w) => return plain? w
  | _ => return none

/-- Take a reserved word that must come next. -/
def expectWord (s : String) : Parse Unit := do
  guard ((← reserved?) = some s)
  drop

/-- Take an operator if it comes next, and tell whether it did. -/
def acceptOperator (s : String) : Parse Bool := do
  if (← peek?) = some (.operator s) then
    drop
    return true
  return false

/-- Take line ends. -/
def skipNewlines : Parse Unit :=
  modify fun ts => ts.dropWhile (· = .newline)

/-- The words that end a list of commands. -/
def closingWords : List String :=
  ["then", "else", "elif", "fi", "do", "done", "esac", "\x7d"]

/-- Whether a list of commands ends here. -/
def atEnd : Parse Bool := do
  match ← peek? with
  | none => return true
  | some (.operator s) => return s = ")" || s = ";;"
  | some (.word _ w) => return (plain? w).any closingWords.contains
  | some _ => return false

/-- An assignment, if a word is one: its name, and the word behind the equals sign. -/
def assignment? (w : Word) : Option (String × Word) :=
  let bare := w.takeWhile fun p => p.bare?.any (· != "=")
  let name := unquoted bare
  match w.drop bare.length with
  | ⟨.text "=", false⟩ :: rest => if isName name then some (name, rest) else none
  | _ => none

/-- The redirects that come next. -/
def redirects (read : List Redirect) : Nat → Parse (List Redirect)
  | 0 => failure
  | fuel + 1 => do
      match ← peek? with
      | some (.document fd w) => do
          drop
          redirects (⟨fd, .here, w⟩ :: read) fuel
      | some (.redirect fd op) => do
          drop
          match ← peek? with
          | some (.word _ w) => do
              drop
              let kind : RedirectKind :=
                match op with
                | "<" => .read
                | ">>" => .append
                | ">&" | "<&" => .duplicate
                | _ => .write
              redirects (⟨fd, kind, w⟩ :: read) fuel
          | _ => failure
      | _ => return read.reverse

/-- A command with its redirects. -/
def withRedirects (c : Cmd) (rs : List Redirect) : Cmd :=
  if rs.isEmpty then c else .redirected c rs

/-- The words of a `for` or the patterns of a `case`, up to anything else. -/
def words (read : List Word) : Nat → Parse (List Word)
  | 0 => failure
  | fuel + 1 => do
      match ← peek? with
      | some (.word _ w) => do
          drop
          words (w :: read) fuel
      | _ => return read.reverse

/-- What follows `for` on its line: a name, and words if there is an `in`. -/
def forHead (fuel : Nat) : Parse (String × Option (List Word)) := do
  match ← words [] fuel with
  | [name] => return (← plain? name, none)
  | name :: inside :: values => do
      guard (plain? inside = some "in")
      return (← plain? name, some values)
  | [] => failure

/-- The patterns of one arm, up to the closing parenthesis. -/
def patterns (read : List Word) : Nat → Parse (List Word)
  | 0 => failure
  | fuel + 1 => do
      match ← peek? with
      | some (.word _ w) => do
          drop
          if ← acceptOperator "|" then patterns (w :: read) fuel
          else do
            guard (← acceptOperator ")")
            return (w :: read).reverse
      | _ => failure

/-- The rest of a simple command: assignments, words and redirects in any order. -/
def simple (line : Nat) (assignments : List (String × Word)) (args : List Word)
    (rs : List Redirect) : Nat → Parse Cmd
  | 0 => failure
  | fuel + 1 => do
      match ← peek? with
      | some (.word l w) => do
          drop
          let line := if line = 0 then l else line
          match args.isEmpty, assignment? w with
          | true, some a => simple line (a :: assignments) args rs fuel
          | _, _ => simple line assignments (w :: args) rs fuel
      | some (.redirect ..) | some (.document ..) => do
          simple line assignments args ((← redirects [] fuel).reverse ++ rs) fuel
      | _ => do
          guard (!(assignments.isEmpty && args.isEmpty && rs.isEmpty))
          return withRedirects (.simple line assignments.reverse args.reverse) rs.reverse

mutual

/-- Commands up to the end of a list. -/
def list : Nat → Parse Cmd
  | 0 => failure
  | fuel + 1 => do
      skipNewlines
      if ← atEnd then return .skip
      let first ← chain fuel
      match ← peek? with
      | some (.operator ";") => do
          drop
          return .seq first (← list fuel)
      | some (.operator "&") => do
          drop
          return .seq (.background first) (← list fuel)
      | some .newline => return .seq first (← list fuel)
      | _ => return first
termination_by structural fuel => fuel

/-- Pipelines joined by `&&` and `||`. -/
def chain : Nat → Parse Cmd
  | 0 => failure
  | fuel + 1 => do
      links (← pipeline fuel) fuel
termination_by structural fuel => fuel

/-- What follows a pipeline in such a chain. -/
def links (first : Cmd) : Nat → Parse Cmd
  | 0 => failure
  | fuel + 1 => do
      if ← acceptOperator "&&" then
        skipNewlines
        links (.both first (← pipeline fuel)) fuel
      else if ← acceptOperator "||" then
        skipNewlines
        links (.either first (← pipeline fuel)) fuel
      else return first
termination_by structural fuel => fuel

/-- Commands joined by `|`. -/
def pipeline : Nat → Parse Cmd
  | 0 => failure
  | fuel + 1 => do
      if (← reserved?) = some "!" then
        drop
        return .negated (← pipeline fuel)
      let first ← command fuel
      if ← acceptOperator "|" then
        skipNewlines
        return .pipe first (← pipeline fuel)
      else return first
termination_by structural fuel => fuel

/-- One command. -/
def command : Nat → Parse Cmd
  | 0 => failure
  | fuel + 1 => do
      if ← acceptOperator "(" then
        let body ← list fuel
        guard (← acceptOperator ")")
        return withRedirects (.subshell body) (← redirects [] fuel)
      match ← reserved? with
      | some "\x7b" => do
          drop
          let body ← list fuel
          expectWord "\x7d"
          return withRedirects body (← redirects [] fuel)
      | some "if" => do
          drop
          let body ← conditional fuel
          return withRedirects body (← redirects [] fuel)
      | some "while" => do
          drop
          let condition ← list fuel
          let body ← doGroup fuel
          return withRedirects (.loop false condition body) (← redirects [] fuel)
      | some "until" => do
          drop
          let condition ← list fuel
          let body ← doGroup fuel
          return withRedirects (.loop true condition body) (← redirects [] fuel)
      | some "for" => do
          drop
          let (name, values) ← forHead fuel
          let _ ← acceptOperator ";"
          skipNewlines
          let body ← doGroup fuel
          return withRedirects (.forIn name values body) (← redirects [] fuel)
      | some "case" => do
          drop
          match ← peek? with
          | some (.word _ subject) => do
              drop
              skipNewlines
              expectWord "in"
              let chosen ← arms [] fuel
              return withRedirects (.choose subject chosen) (← redirects [] fuel)
          | _ => failure
      | some name => do
          match ← get with
          | _ :: .operator "(" :: .operator ")" :: rest => do
              guard (isName name)
              set rest
              skipNewlines
              return .define name (← command fuel)
          | _ => simple 0 [] [] [] (fuel + 1)
      | none => simple 0 [] [] [] (fuel + 1)
termination_by structural fuel => fuel

/-- What follows `if` or `elif`, with the `fi` at its end. -/
def conditional : Nat → Parse Cmd
  | 0 => failure
  | fuel + 1 => do
      let condition ← list fuel
      expectWord "then"
      let body ← list fuel
      match ← reserved? with
      | some "elif" => do
          drop
          return .ifThen condition body (← conditional fuel)
      | some "else" => do
          drop
          let otherwise ← list fuel
          expectWord "fi"
          return .ifThen condition body otherwise
      | _ => do
          expectWord "fi"
          return .ifThen condition body .skip
termination_by structural fuel => fuel

/-- Commands between `do` and `done`. -/
def doGroup : Nat → Parse Cmd
  | 0 => failure
  | fuel + 1 => do
      expectWord "do"
      let body ← list fuel
      expectWord "done"
      return body
termination_by structural fuel => fuel

/-- The arms of a `case`, with the `esac` at their end. -/
def arms (read : List (List Word × Cmd)) : Nat → Parse (List (List Word × Cmd))
  | 0 => failure
  | fuel + 1 => do
      skipNewlines
      if (← reserved?) = some "esac" then
        drop
        return read.reverse
      let _ ← acceptOperator "("
      let ps ← patterns [] fuel
      let body ← list fuel
      if ← acceptOperator ";;" then arms ((ps, body) :: read) fuel
      else do
        skipNewlines
        expectWord "esac"
        return ((ps, body) :: read).reverse
termination_by structural fuel => fuel

end

/-- The command that a script is, unless it breaks the grammar. -/
def parse? (script : String) : Option Cmd := do
  let cs := script.toList
  let ts ← tokens? 1 [] (2 * cs.length + 2) cs
  let (c, rest) ← list (8 * ts.length + 8) ts
  guard rest.isEmpty
  return c

end RunSweep.Shell
