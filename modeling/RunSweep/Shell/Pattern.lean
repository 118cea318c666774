/-!
# Patterns

Patterns match names and the subjects of a choice: an asterisk matches any characters, a question mark
one, and brackets one of a set. A character that was quoted matches only itself.

This is a part of the machine's shell, of which nothing is claimed.
-/

namespace RunSweep.Shell

/-- A character, and whether it was quoted. -/
abbrev Marked := Char × Bool

/-- Whether a text holds a character that is more than itself. -/
def isPattern (p : List Marked) : Bool :=
  p.any fun (c, quoted) => !quoted && (c = '*' || c = '?' || c = '[')

/-- Whether a set between brackets holds a character. -/
def inSet (c : Char) : List Char → Bool
  | a :: '-' :: b :: rest => (a ≤ c && c ≤ b) || inSet c rest
  | a :: rest => a = c || inSet c rest
  | [] => false

/-- The set behind an opening bracket, and the pattern behind it, if it is closed. -/
def takeSet? (p : List Marked) : Option (Bool × List Char × List Marked) :=
  let (negated, body) :=
    match p with
    | ('!', false) :: rest => (true, rest)
    | ('^', false) :: rest => (true, rest)
    | _ => (false, p)
  let (lead, body) :=
    match body with
    | (']', q) :: rest => ([(']', q)], rest)
    | _ => ([], body)
  let inner := body.takeWhile fun m => m ≠ (']', false)
  match body.drop inner.length with
  | [] => none
  | _ :: rest => some (negated, (lead ++ inner).map (·.1), rest)

/-- Whether a pattern matches all of a text. -/
def matchPattern : Nat → List Marked → List Char → Bool
  | 0, _, _ => false
  | _ + 1, [], cs => cs.isEmpty
  | fuel + 1, ('*', false) :: p, [] => matchPattern fuel p []
  | fuel + 1, ('*', false) :: p, c :: cs =>
      matchPattern fuel p (c :: cs) || matchPattern fuel (('*', false) :: p) cs
  | _ + 1, _ :: _, [] => false
  | fuel + 1, ('?', false) :: p, _ :: cs => matchPattern fuel p cs
  | fuel + 1, ('[', false) :: p, c :: cs =>
      match takeSet? p with
      | some (negated, set, rest) => inSet c set != negated && matchPattern fuel rest cs
      | none => c = '[' && matchPattern fuel p cs
  | fuel + 1, (a, _) :: p, c :: cs => a = c && matchPattern fuel p cs

/-- Whether a pattern matches all of a text. -/
def isMatch (p : List Marked) (cs : List Char) : Bool :=
  matchPattern (p.length + cs.length + 1) p cs

end RunSweep.Shell
