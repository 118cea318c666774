import RunSweep.Disk.Calls
import RunSweep.Shell.Arithmetic

/-!
# Conditions

The conditions that `test` looks at: on files, on texts and on integers, and their combinations.

This is a part of the machine's shell, of which nothing is claimed.
-/

namespace RunSweep.Shell

/-- Why a condition has no truth value. -/
inductive ConditionFault where
  | illegalNumber (word : String)
  | unexpectedOperator (word : String)
  | argumentExpected
  deriving DecidableEq

/-- The wording of such a fault. -/
def ConditionFault.message : ConditionFault → String
  | illegalNumber word => "Illegal number: " ++ word
  | unexpectedOperator word => word ++ ": unexpected operator"
  | argumentExpected => "argument expected"

/-- Whether a file can be executed, or a directory be entered. -/
def canExecute (d : Disk) (path : Path) : Bool :=
  match d.node true path with
  | .ok (.file _ executable) => executable
  | .ok .dir | .ok (.program _) => true
  | _ => false

/-- The conditions on one word. -/
def unaryTest? (d : Disk) (op word : String) : Option Bool :=
  let path : Path := ⟨toBytes word⟩
  match op with
  | "-n" => some !word.isEmpty
  | "-z" => some word.isEmpty
  | "-e" | "-r" | "-w" => some (d.node true path).toBool
  | "-f" => some (d.isFile path)
  | "-d" => some (d.isDir path)
  | "-x" => some (canExecute d path)
  | "-s" => some ((d.node true path).toOption.any (0 < ·.size))
  | "-h" | "-L" =>
      some ((d.node false path).toOption.any fun
        | .link _ => true
        | _ => false)
  | "-t" | "-p" | "-b" | "-c" | "-S" | "-u" | "-g" | "-k" => some false
  | _ => none

/-- The integer that a word of a condition denotes. -/
def conditionNumber (word : String) : Except ConditionFault Int :=
  match word.trimAscii.isEmpty, Arithmetic.ofValue? word with
  | false, some n => .ok n
  | _, _ => .error (.illegalNumber word)

/-- The conditions on two integers. -/
def compare? (op : String) : Option (Int → Int → Bool) :=
  match op with
  | "-eq" => some fun a b => a = b
  | "-ne" => some fun a b => a ≠ b
  | "-lt" => some fun a b => a < b
  | "-le" => some fun a b => a ≤ b
  | "-gt" => some fun a b => b < a
  | "-ge" => some fun a b => b ≤ a
  | _ => none

/-- The conditions on two words. -/
def binaryTest? (a op b : String) : Option (Except ConditionFault Bool) :=
  match op with
  | "=" => some (.ok (a = b))
  | "!=" => some (.ok (a ≠ b))
  | "<" => some (.ok (a < b))
  | ">" => some (.ok (b < a))
  | _ =>
      (compare? op).map fun holds => do
        return holds (← conditionNumber a) (← conditionNumber b)

/-- A reader of a condition at the front of some words. -/
abbrev ConditionReader := StateT (List String) (Except ConditionFault)

/-- One condition without `-a` and `-o`; `nested` reads what stands between parentheses. -/
def singleCondition (d : Disk) (nested : ConditionReader Bool) : ConditionReader Bool := do
  match ← get with
  | [] => throw .argumentExpected
  | a :: op :: b :: rest =>
      match binaryTest? a op b with
      | some holds => do
          set rest
          holds
      | none =>
          match unaryTest? d a op with
          | some holds => do
              set (b :: rest)
              return holds
          | none =>
              if a = "(" then
                set (op :: b :: rest)
                let holds ← nested
                match ← get with
                | ")" :: rest => do
                    set rest
                    return holds
                | _ => throw .argumentExpected
              else if op = "-a" || op = "-o" then
                set (op :: b :: rest)
                return !a.isEmpty
              else throw (.unexpectedOperator op)
  | [op, word] =>
      match unaryTest? d op word with
      | some holds => do
          set ([] : List String)
          return holds
      | none => throw (.unexpectedOperator op)
  | [word] => do
      set ([] : List String)
      return !word.isEmpty

/-- Conditions that are negated or joined; `stage` 0 reads those joined by `-o`, 1 those joined by `-a`,
and 2 a single one. -/
def condition (d : Disk) : Nat → Nat → ConditionReader Bool
  | 0, _ => throw .argumentExpected
  | fuel + 1, stage => do
      if stage < 2 then
        let a ← condition d fuel (stage + 1)
        match ← get with
        | op :: rest =>
            if op = (if stage = 0 then "-o" else "-a") then
              set rest
              let b ← condition d fuel stage
              return if stage = 0 then a || b else a && b
            else return a
        | [] => return a
      else
        match ← get with
        | "!" :: next :: rest =>
            if (binaryTest? "" next "").isSome && !rest.isEmpty then
              singleCondition d (condition d fuel 0)
            else
              set (next :: rest)
              return !(← condition d fuel 2)
        | _ => singleCondition d (condition d fuel 0)

/-- **The truth of a condition.** Without any word it is false. -/
def evalCondition (d : Disk) (words : List String) : Except ConditionFault Bool :=
  match words with
  | [] => .ok false
  | _ => do
      let (holds, rest) ← (condition d (4 * words.length + 8) 0).run words
      match rest with
      | [] => return holds
      | word :: _ => throw (.unexpectedOperator word)

end RunSweep.Shell
