import RunSweep.Loop.Basic
import RunSweep.Storage.Tree

/-!
# Scripted launchers

A script says for every start of the acquisition program what it does: the files it writes, the requests
it sends, how often it is pending, and how it ends. Scripts drive a loop without any process, over any
store that can be written to.
-/

namespace RunSweep

/-- The error a scripted program ends with, in terms that need the command to complete. -/
inductive ScriptedError where
  | launch (cause : HostError)
  | wait (cause : HostError)
  | io (cause : HostError)
  | refused (text : String)
  | other (text : String)

/-- The error of a run of `command`. -/
def ScriptedError.toRunError (command : Command) : ScriptedError → RunError
  | launch cause => .launch command.program cause
  | wait cause => .wait command.program cause
  | io cause => .io cause
  | refused text => .refused text
  | other text => .other text

/-- What a scripted program does in one run, in the order of the fields. -/
structure ScriptEntry where
  writes : List (Path × UInt64) := []
  /-- Operations that fail from now on. -/
  failing : List (Operation × Path) := []
  requests : Nat := 0
  /-- No request is sent from here on, by any entry. -/
  hangUp : Bool := false
  /-- How often the run is pending before it goes on. -/
  yields : Nat := 0
  lateWrites : List (Path × UInt64) := []
  result : Except ScriptedError ExitReport := .ok .ok

/-- How a script changes a store. -/
structure ScriptedStore (σ : Type) where
  write : Path → UInt64 → σ → σ
  fail : Operation → Path → σ → σ

/-- Trees can be written to and made to fail. -/
def Tree.scripted : ScriptedStore Tree where
  write path len t := t.addSizedFile path len
  fail operation path t := t.fail operation path

/-- The runs still to come, the last of them for good if `again`; and whether requests can be sent. -/
structure Script where
  entries : List ScriptEntry := []
  again : Bool := false
  connected : Bool := true

namespace Script

/-- The entry of the next run, if there is one, and the script behind it. -/
def next (s : Script) : Option ScriptEntry × Script :=
  match s.entries with
  | [] => (none, s)
  | [e] => (some e, if s.again then s else { s with entries := [] })
  | e :: rest => (some e, { s with entries := rest })

variable {σ : Type}

/-- The store after some files are written. -/
def write (target : ScriptedStore σ) (files : List (Path × UInt64)) (store : σ) : σ :=
  files.foldl (fun store (path, len) => target.write path len store) store

/-- A run that is pending so many times before `last`. -/
def pendTimes (stage : Stage σ Script) (last : Attempt σ Script) : Nat → Attempt σ Script
  | 0 => last
  | n + 1 => .pending stage (pendTimes stage last n)

/-- The course of a run. Everything up to the hanging up happens before the run is first pending. -/
def play (target : ScriptedStore σ) (command : Command) (store : σ) (s : Script) :
    Attempt σ Script :=
  match s.next with
  | (none, s) => .ended { store, launcher := s } (.error (.other "script exhausted"))
  | (some e, s) =>
      let store := write target e.writes store
      let store := e.failing.foldl (fun store (op, path) => target.fail op path store) store
      let requests := if s.connected then e.requests else 0
      let s := { s with connected := s.connected && !e.hangUp }
      let late := write target e.lateWrites store
      let result := e.result.mapError (·.toRunError command)
      match e.yields with
      | 0 => .ended { store := late, launcher := s, requests } result
      | n + 1 =>
          .pending { store, launcher := s, requests }
            (pendTimes { store, launcher := s } (.ended { store := late, launcher := s } result) n)

/-- The launcher that plays scripts. -/
def launcher (target : ScriptedStore σ) : Launcher σ Script where
  launch command store s := s.play target command store

end Script

end RunSweep
