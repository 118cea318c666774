import RunSweep.Shell.Token

/-!
# Arithmetic in scripts

Expressions over integers of 64 bits, with variables and assignments. A variable that is not set counts
as zero.

This is a part of the machine's shell, of which nothing is claimed.
-/

namespace RunSweep.Shell.Arithmetic

/-- An expression. -/
inductive Expr where
  | number (n : Int)
  | variable (name : String)
  | unary (operator : Char) (e : Expr)
  | binary (operator : String) (a b : Expr)
  | choice (condition a b : Expr)
  /-- With an operator, the old value is the first operand. -/
  | assign (name operator : String) (e : Expr)

/-- A reader of something at the front of a text. -/
abbrev Parse := StateT (List Char) Option

/-- Leave out blanks. -/
def skipBlanks : Parse Unit :=
  modify fun cs => cs.dropWhile fun c => c = ' ' || c = '\t' || c = '\n'

/-- The operators with two operands, by rising strength. -/
def levels : List (List String) :=
  [["||"], ["&&"], ["|"], ["^"], ["&"], ["==", "!="], ["<=", ">=", "<", ">"], ["<<", ">>"],
    ["+", "-"], ["*", "/", "%"]]

/-- The operators that may stand in front of the sign of an assignment. -/
def assignable : List String :=
  ["", "+", "-", "*", "/", "%", "<<", ">>", "&", "^", "|"]

/-- Whether an operator stands at the front of a text, and not the beginning of a longer one. -/
def startsWith (op : String) (cs : List Char) : Bool :=
  op.toList.isPrefixOf cs
    && match cs.drop op.length with
      | [] => true
      | c :: _ =>
          !(op.length = 1 && (c = '=' || (["&", "|", "<", ">"].contains op && op.toList = [c])))
            && !((op = "<<" || op = ">>") && c = '=')

/-- A number: decimal, or octal behind a zero, or hexadecimal behind a zero and an `x`. -/
def number? (cs : List Char) : Option Int :=
  let digit (c : Char) : Nat :=
    if '0' ≤ c && c ≤ '9' then c.toNat - '0'.toNat
    else if 'a' ≤ c && c ≤ 'f' then c.toNat - 'a'.toNat + 10
    else if 'A' ≤ c && c ≤ 'F' then c.toNat - 'A'.toNat + 10
    else 16
  let read (base : Nat) (ds : List Char) : Option Int :=
    if ds.isEmpty || ds.any fun c => base ≤ digit c then none
    else some (ds.foldl (fun n c => base * n + digit c) 0 : Nat)
  match cs with
  | '0' :: 'x' :: ds | '0' :: 'X' :: ds => read 16 ds
  | ['0'] => some 0
  | '0' :: ds => read 8 ds
  | ds => read 10 ds

mutual

/-- An expression with assignments and choices. -/
def expression : Nat → Parse Expr
  | 0 => failure
  | fuel + 1 => do
      skipBlanks
      let cs ← get
      let name := cs.takeWhile inName
      let rest := (cs.drop name.length).dropWhile fun c => c = ' ' || c = '\t'
      let target := String.ofList name
      match assignable.find? fun op =>
          isName target && (op ++ "=").toList.isPrefixOf rest
            && !("==".toList.isPrefixOf rest) with
      | some op => do
          set (rest.drop (op.length + 1))
          return .assign target op (← expression fuel)
      | none => do
          let condition ← binary levels fuel
          skipBlanks
          match ← get with
          | '?' :: rest => do
              set rest
              let a ← expression fuel
              skipBlanks
              match ← get with
              | ':' :: rest => do
                  set rest
                  return .choice condition a (← expression fuel)
              | _ => failure
          | _ => return condition
termination_by structural fuel => fuel

/-- Operands joined by the operators of the weakest level that is left. -/
def binary (left : List (List String)) : Nat → Parse Expr
  | 0 => failure
  | fuel + 1 => do
      match left with
      | [] => operand fuel
      | ops :: stronger => more ops stronger (← binary stronger fuel) fuel
termination_by structural fuel => fuel

/-- What follows the first of such operands. -/
def more (ops : List String) (stronger : List (List String)) (a : Expr) : Nat → Parse Expr
  | 0 => failure
  | fuel + 1 => do
      skipBlanks
      let cs ← get
      match ops.find? (startsWith · cs) with
      | some op => do
          set (cs.drop op.length)
          more ops stronger (.binary op a (← binary stronger fuel)) fuel
      | none => return a
termination_by structural fuel => fuel

/-- A number, a variable, an expression in parentheses, or one of these behind an operator. -/
def operand : Nat → Parse Expr
  | 0 => failure
  | fuel + 1 => do
      skipBlanks
      match ← get with
      | '(' :: rest => do
          set rest
          let e ← expression fuel
          skipBlanks
          match ← get with
          | ')' :: rest => do
              set rest
              return e
          | _ => failure
      | c :: rest =>
          if ['-', '+', '!', '~'].contains c then do
            set rest
            return .unary c (← operand fuel)
          else do
            let word := (c :: rest).takeWhile inName
            set ((c :: rest).drop word.length)
            let s := String.ofList word
            if isName s then return .variable s else return .number (← number? word)
      | [] => failure
termination_by structural fuel => fuel

end

/-- An integer cut down to 64 bits with a sign. -/
def wrap (n : Int) : Int :=
  n.bmod UInt64.size

/-- A truth value as a number. -/
def truth (b : Bool) : Int :=
  if b then 1 else 0

/-- The value of an operator; division by zero has none. -/
def apply (op : String) (a b : Int) : Option Int :=
  match op with
  | "+" => some (wrap (a + b))
  | "-" => some (wrap (a - b))
  | "*" => some (wrap (a * b))
  | "/" => if b = 0 then none else some (wrap (a.tdiv b))
  | "%" => if b = 0 then none else some (a.tmod b)
  | "<" => some (truth (a < b))
  | ">" => some (truth (b < a))
  | "<=" => some (truth (a ≤ b))
  | ">=" => some (truth (b ≤ a))
  | "==" => some (truth (a = b))
  | "!=" => some (truth (a ≠ b))
  | "<<" => some (wrap (a * Nat.pow 2 (b % 64).toNat))
  | ">>" => some (a.fdiv (Nat.pow 2 (b % 64).toNat))
  | "&" => some ((BitVec.ofInt 64 a &&& BitVec.ofInt 64 b).toInt)
  | "|" => some ((BitVec.ofInt 64 a ||| BitVec.ofInt 64 b).toInt)
  | "^" => some ((BitVec.ofInt 64 a ^^^ BitVec.ofInt 64 b).toInt)
  | _ => none

/-- The integer that the value of a variable denotes; an empty one counts as zero. -/
def ofValue? (text : String) : Option Int :=
  let cs := text.toList.filter fun c => !(c = ' ' || c = '\t' || c = '\n')
  match cs with
  | [] => some 0
  | '-' :: ds => (number? ds).map (-·)
  | '+' :: ds => number? ds
  | ds => number? ds

/-- Evaluate an expression, given the values of the variables; the state holds the values assigned. -/
def eval (value : String → String) : Expr → StateT (List (String × String)) Option Int
  | .number n => return wrap n
  | .variable name => do
      ofValue? (((← get).lookup name).getD (value name))
  | .unary op e => do
      let n ← eval value e
      match op with
      | '-' => return wrap (-n)
      | '!' => return truth (n = 0)
      | '~' => return -n - 1
      | _ => return n
  | .binary op a b => do
      let m ← eval value a
      if op = "&&" && m = 0 then return 0
      if op = "||" && m ≠ 0 then return 1
      let n ← eval value b
      if op = "&&" || op = "||" then return truth (n ≠ 0)
      apply op m n
  | .choice condition a b => do
      if (← eval value condition) ≠ 0 then eval value a else eval value b
  | .assign name op e => do
      let n ← eval value e
      let n ←
        if op = "" then pure n
        else do
          let old ← ofValue? (((← get).lookup name).getD (value name))
          apply op old n
      modify fun assigned => (name, toString n) :: assigned
      return n

/-- The value of a text as an expression, and the assignments that it makes, last one first. -/
def evalText (value : String → String) (text : String) :
    Option (Int × List (String × String)) := do
  let cs := text.toList
  if cs.all fun c => c = ' ' || c = '\t' || c = '\n' then some (0, [])
  else do
    let (e, rest) ← expression (20 * cs.length + 40) cs
    guard (rest.all fun c => c = ' ' || c = '\t' || c = '\n')
    (eval value e).run []

end RunSweep.Shell.Arithmetic
