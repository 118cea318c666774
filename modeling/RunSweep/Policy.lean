import RunSweep.Text.Blank
import RunSweep.Text.Lowercase

/-!
# The launch-failure policy

What the loop does when the acquisition program cannot be started at all. The keywords are read without
regard to letter case and to blanks around them.
-/

namespace RunSweep

/-- What follows a failed launch. A program that starts and then exits with a failure is no failed
launch. -/
inductive LaunchPolicy where
  /-- Stop the loop with the launch error. -/
  | abort
  /-- Sweep the working directory all the same. -/
  | carryOn
  deriving DecidableEq, Inhabited

namespace LaunchPolicy

/-- The keyword of a policy. -/
def keyword : LaunchPolicy → String
  | abort => "abort"
  | carryOn => "continue"

/-- The policy's title, as reports of a configuration show it. -/
def title : LaunchPolicy → String
  | abort => "Abort"
  | carryOn => "Continue"

/-- A text that is no keyword of a policy, trimmed and in lower case. -/
structure Unknown where
  text : String

/-- The wording of a refusal. -/
def Unknown.message (u : Unknown) : String :=
  "invalid on_launch_failure: " ++ u.text ++ " (expected \"abort\" or \"continue\")"

/-- Read a keyword, in any letter case and with blanks around it. -/
def read (text : String) : Except Unknown LaunchPolicy :=
  let word := lowercase (trim text)
  if word = "abort" then .ok abort
  else if word = "continue" then .ok carryOn
  else .error ⟨word⟩

end LaunchPolicy

end RunSweep
