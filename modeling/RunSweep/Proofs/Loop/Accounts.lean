import Mathlib.Algebra.GroupWithZero.Nat
import Mathlib.Data.List.Induction
import RunSweep.Loop.Rehearsal
import RunSweep.Loop.Script
import RunSweep.Proofs.Loop.Steps

/-!
# The account that a run keeps

A fresh run completes iterations one after another, and at any time one more may be incomplete. `Ledger`
is the invariant: the trace tells of the complete iterations in order and then of the incomplete one, and
the counter, the sums and the history are those of the complete iterations. `Rest` lists what an
incomplete iteration can have left in the trace, by what the loop does next and by why it stopped.
-/

namespace RunSweep

/-- **A complete iteration**: how the program ended, and the report of the sweep. -/
structure Round where
  result : Except RunError ExitReport
  report : Report

namespace Round

/-- The index of the iteration that follows some complete ones. -/
def next (rounds : List Round) : UInt64 :=
  .ofNat (rounds.length + 1)

/-- What a complete iteration leaves in the trace. -/
def events (command : Command) (index : UInt64) (c : Round) : List Event :=
  [.invoked index command, .returned index c.result, .swept index (.ok c.report)]

/-- What the history keeps of a complete iteration. -/
def iteration (index : UInt64) (c : Round) : Iteration :=
  { index, exit := c.result.toOption, report := c.report }

/-- Iterations with their indices, counted from one. -/
def numbered (rounds : List Round) : List (UInt64 × Round) :=
  rounds.zipIdx.map fun (c, i) => (.ofNat (i + 1), c)

/-- The trace of iterations that were completed one after another. -/
def trace (command : Command) (rounds : List Round) : List Event :=
  (numbered rounds).flatMap fun (index, c) => c.events command index

/-- The history of iterations that were completed one after another. -/
def history (rounds : List Round) : List Iteration :=
  (numbered rounds).map fun (index, c) => c.iteration index

/-- The sums over the sweeps of some iterations. -/
def totals (rounds : List Round) : Totals :=
  { archived := (rounds.map (·.report.archived.length)).sum
    deleted := (rounds.map (·.report.deleted.length)).sum
    failures := (rounds.map (·.report.failures.length)).sum }

variable (command : Command) (rounds : List Round) (c : Round)

variable {command rounds} in
theorem mem_of_mem_numbered {index : UInt64} {c : Round} (h : (index, c) ∈ numbered rounds) :
    c ∈ rounds := by
  obtain ⟨⟨other, i⟩, hmem, heq⟩ := List.mem_map.mp h
  obtain ⟨-, rfl⟩ := Prod.mk.inj heq
  exact List.fst_mem_of_mem_zipIdx hmem

variable {rounds} in
/-- Each of the iterations was swept after its program had ended in a tolerated way. -/
theorem swept_iff {plan : Plan} (h : ∀ c ∈ rounds, plan.tolerates c.result = true)
    (index : UInt64) :
    (∃ result, .swept index result ∈ trace command rounds) ↔
      ∃ result, .returned index result ∈ trace command rounds ∧ plan.tolerates result = true := by
  have hswept : (∃ result, .swept index result ∈ trace command rounds) ↔
      ∃ c, (index, c) ∈ numbered rounds := by
    simp [trace, events]
  have hreturned (result : Except RunError ExitReport) :
      .returned index result ∈ trace command rounds ↔
        ∃ c, (index, c) ∈ numbered rounds ∧ result = c.result := by
    simp [trace, events]
  rw [hswept]
  constructor
  · rintro ⟨c, hc⟩
    exact ⟨c.result, (hreturned _).mpr ⟨c, hc, rfl⟩, h c (mem_of_mem_numbered hc)⟩
  · rintro ⟨result, hmem, -⟩
    obtain ⟨c, hc, -⟩ := (hreturned result).mp hmem
    exact ⟨c, hc⟩

theorem numbered_concat :
    numbered (rounds ++ [c]) = numbered rounds ++ [(next rounds, c)] := by
  rw [numbered, numbered, List.zipIdx_append, List.map_append, Nat.zero_add]
  rfl

theorem trace_concat :
    trace command (rounds ++ [c]) =
      trace command rounds ++ c.events command (next rounds) := by
  rw [trace, trace, numbered_concat, List.flatMap_append, List.flatMap_singleton]

theorem history_concat :
    history (rounds ++ [c]) = history rounds ++ [c.iteration (next rounds)] := by
  rw [history, history, numbered_concat, List.map_append, List.map_singleton]

theorem totals_concat : totals (rounds ++ [c]) = (totals rounds).add c.report := by
  simp [totals, Totals.add]

end Round

variable {σ β : Type}

/-- Whether an iteration is under way. -/
def Activity.isBusy : Activity σ β → Bool
  | check | start => false
  | await .. | listen .. | sweep .. => true

/-- **What an iteration has left in the trace that is not complete**, by why the loop has stopped, if it
has, and by what it does next. -/
inductive Rest (plan : Plan) (command : Command) (index : UInt64) :
    Option StopReason → Activity σ β → List Event → Prop where
  | checking : Rest plan command index none .check []
  | limit : Rest plan command index (some .iterationLimit) .check []
  | shutdown : Rest plan command index (some .shutdownRequested) .check []
  | starting : Rest plan command index none .start []
  | awaiting (course : Attempt σ β) :
      Rest plan command index none (.await index course) [.invoked index command]
  | listening (rest : Attempt σ β) :
      Rest plan command index none (.listen index rest) [.invoked index command]
  | abandoned :
      Rest plan command index (some .shutdownRequested) .check
        [.invoked index command, .abandoned index]
  /-- The program ended in a way that ends the loop. -/
  | failed {e : RunError} : ¬plan.tolerates (.error e) = true →
      Rest plan command index (some .fault) .check
        [.invoked index command, .returned index (.error e)]
  | sweeping {result : Except RunError ExitReport} : plan.tolerates result = true →
      Rest plan command index none (.sweep index result.toOption)
        [.invoked index command, .returned index result]
  /-- The working directory could not be listed. -/
  | unlisted {result : Except RunError ExitReport} {fault : Fault} : plan.tolerates result = true →
      Rest plan command index (some .fault) .check
        [.invoked index command, .returned index result, .swept index (.error fault)]

/-- An incomplete iteration is swept, or to be swept next, if its program ended in a tolerated way. -/
theorem Rest.swept_iff {plan : Plan} {command : Command} {current : UInt64}
    {reason : Option StopReason} {activity : Activity σ β} {rest : List Event}
    (h : Rest plan command current reason activity rest) (index : UInt64) :
    ((∃ result, .swept index result ∈ rest) ∨ ∃ exit, activity = .sweep index exit) ↔
      ∃ result, .returned index result ∈ rest ∧ plan.tolerates result = true := by
  cases h with
  | failed hfatal => simp [hfatal]
  | sweeping htolerates => simpa [htolerates] using eq_comm
  | unlisted htolerates => simp [htolerates]
  | _ => simp

/-- **A session keeps the account of some complete iterations.** -/
structure Ledger (setup : Setup σ β) (plan : Plan) (rounds : List Round) (s : Session σ β) :
    Prop where
  plan_eq : s.progress.plan = plan
  tolerated : ∀ c ∈ rounds, plan.tolerates c.result = true
  completed : s.progress.completed = .ofNat rounds.length
  totals : s.totals = Round.totals rounds
  history : s.history = if setup.keepHistory then Round.history rounds else []
  phase : s.progress.phase = if s.progress.stopReason.isSome then .stopped else .running
  underWay : s.progress.underWay = s.activity.isBusy
  events : ∃ rest, s.events = Round.trace setup.command rounds ++ rest ∧
    Rest plan setup.command (Round.next rounds) s.progress.stopReason s.activity rest

namespace Ledger

variable {setup : Setup σ β} {plan : Plan} {rounds : List Round} {s : Session σ β}

theorem fresh (setup : Setup σ β) (plan : Plan) (world : World σ β) :
    Ledger setup plan [] (.fresh plan world) := by
  refine ⟨rfl, nofun, rfl, rfl, ?_, rfl, rfl, [], rfl, .checking⟩
  exact (ite_self _).symm

/-- What arrives from outside is not told of. -/
theorem moment (h : Ledger setup plan rounds s) : Ledger setup plan rounds s.moment :=
  { h with }

theorem stopReason_of_running (h : Ledger setup plan rounds s) (hrunning : s.progress.phase = .running) :
    s.progress.stopReason = none := by
  have hphase := h.phase
  rw [hrunning] at hphase
  split at hphase
  · cases hphase
  · rename_i hsome
    exact Option.not_isSome_iff_eq_none.mp hsome

/-- The iteration that is begun next has the next index. -/
theorem next_eq (h : Ledger setup plan rounds s) :
    s.progress.completed + 1 = Round.next rounds := by
  rw [h.completed, Round.next, UInt64.ofNat_add]
  rfl

/-- A loop that has stopped does nothing more. -/
theorem activity_of_stopped (h : Ledger setup plan rounds s)
    (hstopped : s.progress.phase = .stopped) : s.activity = .check := by
  obtain ⟨rest, -, hrest⟩ := h.events
  have hphase := h.phase
  generalize s.progress.stopReason = reason at hphase hrest
  generalize s.activity = activity at hrest
  rw [hstopped] at hphase
  cases hrest <;> first | rfl | cases hphase

/-! ## What each part of a step does to the account -/

section Parts

variable (h : Ledger setup plan rounds s) (hrunning : s.progress.phase = .running)

include h hrunning

/-- Going on to something else in the same iteration. -/
theorem goOn {world : World σ β} {events rest : List Event} {activity : Activity σ β}
    (hbusy : activity.isBusy = s.activity.isBusy)
    (hevents : events = Round.trace setup.command rounds ++ rest)
    (hrest : Rest plan setup.command (Round.next rounds) none activity rest) :
    Ledger setup plan rounds { s with world, events, activity } :=
  { h with
    underWay := h.underWay.trans hbusy.symm
    events := ⟨rest, hevents, h.stopReason_of_running hrunning ▸ hrest⟩ }

/-- Stopping. -/
theorem stop {world : World σ β} {events rest : List Event} {activity : Activity σ β}
    {reason : StopReason} (hevents : events = Round.trace setup.command rounds ++ rest)
    (hrest : Rest plan setup.command (Round.next rounds) (some reason)
      (.check : Activity σ β) rest) :
    Ledger setup plan rounds ({ s with world, events, activity }.stop reason) := by
  have hreason := Progress.stopReason_stop (h.stopReason_of_running hrunning) reason
  have hphase : (s.progress.stop reason).phase =
      if (s.progress.stop reason).stopReason.isSome then .stopped else .running := by
    rw [hreason]
    rfl
  exact
    { h with
      phase := hphase
      underWay := rfl
      events := ⟨rest, hevents, hreason.symm ▸ hrest⟩ }

theorem check (hactivity : s.activity = .check) : Ledger setup plan rounds s.check.session := by
  obtain ⟨rest, hevents, hrest⟩ := h.events
  rw [h.stopReason_of_running hrunning, hactivity] at hrest
  cases hrest
  unfold Session.check
  rcases s.world.receive with ⟨_ | _, world⟩
  · exact h.goOn hrunning (hactivity ▸ rfl) hevents .starting
  · exact h.stop hrunning hevents .shutdown

theorem start (hactivity : s.activity = .start) :
    Ledger setup plan rounds (setup.start s).session := by
  obtain ⟨rest, hevents, hrest⟩ := h.events
  rw [h.stopReason_of_running hrunning, hactivity] at hrest
  cases hrest
  have hidle : s.progress.underWay = false := h.underWay.trans (hactivity ▸ rfl)
  rw [Setup.start_of_idle hrunning hidle, h.next_eq]
  have hinvoked : s.events ++ [.invoked (Round.next rounds) setup.command] =
      Round.trace setup.command rounds ++
        [.invoked (Round.next rounds) setup.command] := by
    rw [hevents, List.append_nil]
  exact
    { h with
      underWay := rfl
      events := ⟨_, hinvoked, (h.stopReason_of_running hrunning).symm ▸ .awaiting _⟩ }

theorem listen {index : UInt64} {later : Attempt σ β} (hactivity : s.activity = .listen index later) :
    Ledger setup plan rounds (s.listen index later).session := by
  obtain ⟨rest, hevents, hrest⟩ := h.events
  rw [h.stopReason_of_running hrunning, hactivity] at hrest
  cases hrest
  unfold Session.listen
  rcases s.world.receive with ⟨_ | _, world⟩
  · exact h.goOn hrunning (hactivity ▸ rfl) hevents (.awaiting _)
  · refine h.stop hrunning ?_ .abandoned
    simp [hevents]

theorem await {index : UInt64} {course : Attempt σ β} (hactivity : s.activity = .await index course) :
    Ledger setup plan rounds (s.await index course).session := by
  obtain ⟨rest, hevents, hrest⟩ := h.events
  rw [h.stopReason_of_running hrunning, hactivity] at hrest
  cases hrest
  -- the end of the program comes next in the trace
  have hreturned (result : Except RunError ExitReport) :
      s.events ++ [.returned (Round.next rounds) result] =
        Round.trace setup.command rounds ++
          [.invoked (Round.next rounds) setup.command, .returned (Round.next rounds) result] := by
    rw [hevents, List.append_assoc]
    rfl
  rcases Session.poll_cases plan course with
    ⟨stage, later, hpoll⟩ | ⟨stage, result, hpoll, htolerates⟩ | ⟨stage, e, hpoll, hfatal⟩
  · rw [Session.await_of_pending hpoll]
    exact h.goOn hrunning (hactivity ▸ rfl) hevents (.listening _)
  · rw [Session.await_of_tolerated hpoll (h.plan_eq.symm ▸ htolerates)]
    exact h.goOn hrunning (hactivity ▸ rfl) (hreturned _) (.sweeping htolerates)
  · rw [Session.await_of_fatal hpoll (h.plan_eq.symm ▸ hfatal)]
    exact h.stop hrunning (hreturned _) (.failed hfatal)

/-- Completing an iteration. -/
theorem complete {c : Round} {world : World σ β} {events : List Event}
    (htolerates : plan.tolerates c.result = true)
    (hevents : events = Round.trace setup.command (rounds ++ [c])) :
    Ledger setup plan (rounds ++ [c])
      { setup.enter { s with world, events, activity := .check }
          (c.iteration (Round.next rounds)) with progress := s.progress.finished } := by
  obtain ⟨hplan, hcompleted, hidle, hstopped⟩ :=
    Progress.finished_cases hrunning (h.stopReason_of_running hrunning)
  constructor
  case plan_eq => exact hplan.trans h.plan_eq
  case tolerated =>
    intro other hother
    rcases List.mem_append.mp hother with hother | hother
    · exact h.tolerated other hother
    · rw [List.mem_singleton.mp hother]
      exact htolerates
  case completed =>
    rw [hcompleted, h.completed, List.length_append, UInt64.ofNat_add]
    rfl
  case totals =>
    show s.totals.add c.report = _
    rw [Round.totals_concat, h.totals]
  case history =>
    show (if setup.keepHistory then s.history ++ [_] else s.history) = _
    rw [h.history]
    split
    · rw [Round.history_concat]
    · rfl
  case phase =>
    rcases hstopped with ⟨-, hphase, hreason⟩ | ⟨-, hphase, hreason⟩
    · rw [hphase, hreason]
      rfl
    · rw [hphase, hreason]
      rfl
  case underWay => exact hidle
  case events =>
    refine ⟨[], hevents.trans (List.append_nil _).symm, ?_⟩
    rcases hstopped with ⟨-, -, hreason⟩ | ⟨-, -, hreason⟩
    · exact hreason.symm ▸ .limit
    · exact hreason.symm ▸ .checking

theorem sweep {index : UInt64} {exit : Option ExitReport} (hactivity : s.activity = .sweep index exit) :
    ∃ rounds', Ledger setup plan rounds' (setup.sweep s index exit).session := by
  obtain ⟨rest, hevents, hrest⟩ := h.events
  have hbusy : s.progress.underWay = true := h.underWay.trans (hactivity ▸ rfl)
  rw [h.stopReason_of_running hrunning, hactivity] at hrest
  cases hrest with
  | @sweeping result htolerates =>
      have hswept (outcome : Except Fault Report) :
          s.events ++ [.swept (Round.next rounds) outcome] =
            Round.trace setup.command rounds ++
              [.invoked (Round.next rounds) setup.command, .returned (Round.next rounds) result,
                .swept (Round.next rounds) outcome] := by
        rw [hevents, List.append_assoc]
        rfl
      rcases setup.sweep_cases s with ⟨report, store, hsweep⟩ | ⟨fault, store, hsweep⟩
      -- the iteration is complete
      · refine ⟨rounds ++ [⟨result, report⟩], ?_⟩
        rw [Setup.sweep_of_listed hrunning hbusy hsweep]
        refine h.complete hrunning (c := ⟨result, report⟩) htolerates ?_
        rw [Round.trace_concat]
        exact hswept _
      -- the working directory cannot be listed
      · refine ⟨rounds, ?_⟩
        rw [Setup.sweep_of_unlisted hsweep]
        exact h.stop hrunning (hswept _) (.unlisted htolerates)

/-- **What is done next keeps the account**, of one more iteration perhaps. -/
theorem act : ∃ rounds', Ledger setup plan rounds' (setup.act s).session := by
  unfold Setup.act
  cases hactivity : s.activity with
  | check => exact ⟨rounds, h.check hrunning hactivity⟩
  | start => exact ⟨rounds, h.start hrunning hactivity⟩
  | await index course => exact ⟨rounds, h.await hrunning hactivity⟩
  | listen index later => exact ⟨rounds, h.listen hrunning hactivity⟩
  | sweep index exit => exact h.sweep hrunning hactivity

end Parts

/-- **Every step keeps the account**, the last one as well. -/
theorem step (h : Ledger setup plan rounds s) :
    ∃ rounds', Ledger setup plan rounds' (setup.step s).session :=
  Setup.step_preserves (motive := fun t => ∃ rounds', Ledger setup plan rounds' t) ⟨rounds, h⟩
    (fun _ ⟨rounds', h'⟩ => ⟨rounds', h'.moment⟩) fun hrunning => h.act hrunning

end Ledger

/-! ## How a run ends -/

/-- **What a loop that has not stopped does next**, and what becomes of its progress and of its trace. -/
inductive Move (s : Session σ β) : Step σ β → Prop where
  /-- It completes its iteration. -/
  | completes {t : Session σ β} {index : UInt64} {report : Report} :
      t.progress = s.progress.finished → t.events = s.events ++ [.swept index (.ok report)] →
        Move s (.next t)
  | goesOn {t : Session σ β} {events : List Event} :
      t.progress.stopReason = s.progress.stopReason → t.events = s.events ++ events →
        (∀ index report, .swept index (.ok report) ∉ events) → Move s (.next t)
  /-- It stops at a request. -/
  | shutdown {t : Session σ β} {events : List Event} :
      t.progress = s.progress → t.events = s.events ++ events →
        (∀ index report, .swept index (.ok report) ∉ events) →
          Move s (.next (t.stop .shutdownRequested))
  /-- It gives up with an error. -/
  | fails {t : Session σ β} {events : List Event} {e : RunError} :
      t.progress = s.progress → t.events = s.events ++ events →
        (∀ index report, .swept index (.ok report) ∉ events) → Move s (t.fail e)

namespace Ledger

variable {setup : Setup σ β} {plan : Plan} {rounds : List Round} {s t : Session σ β}

theorem move (h : Ledger setup plan rounds s) (hrunning : s.progress.phase = .running) :
    Move s (setup.act s) := by
  have hnothing : s.events = s.events ++ [] := (List.append_nil _).symm
  unfold Setup.act
  cases hactivity : s.activity with
  | check =>
      dsimp only [Session.check]
      rcases s.world.receive with ⟨_ | _, world⟩
      · exact .goesOn rfl hnothing nofun
      · exact .shutdown (t := { s with world }) rfl hnothing nofun
  | start =>
      have hidle : s.progress.underWay = false := h.underWay.trans (hactivity ▸ rfl)
      dsimp only
      rw [Setup.start_of_idle hrunning hidle]
      exact .goesOn rfl rfl (by simp)
  | await index course =>
      dsimp only
      rcases Session.poll_cases s.progress.plan course with
        ⟨stage, later, hpoll⟩ | ⟨stage, returned, hpoll, htolerates⟩ | ⟨stage, e, hpoll, hfatal⟩
      · rw [Session.await_of_pending hpoll]
        exact .goesOn rfl hnothing nofun
      · rw [Session.await_of_tolerated hpoll htolerates]
        exact .goesOn rfl rfl (by simp)
      -- the end of the program ends the loop
      · rw [Session.await_of_fatal hpoll hfatal]
        exact .fails rfl rfl (by simp)
  | listen index later =>
      dsimp only [Session.listen]
      rcases s.world.receive with ⟨_ | _, world⟩
      · exact .goesOn rfl hnothing nofun
      · exact .shutdown (s := s) (t := { s with world }.record (.abandoned index)) rfl rfl (by simp)
  | sweep index exit =>
      have hbusy : s.progress.underWay = true := h.underWay.trans (hactivity ▸ rfl)
      dsimp only
      rcases setup.sweep_cases s with ⟨report, store, hsweep⟩ | ⟨fault, store, hsweep⟩
      · rw [Setup.sweep_of_listed hrunning hbusy hsweep]
        exact .completes rfl rfl
      -- so does a working directory that cannot be listed
      · rw [Setup.sweep_of_unlisted hsweep]
        exact .fails rfl rfl (by simp)

/-- **A loop that does not go on has met with an error**, which stops it. -/
theorem fault_of_act {result : Except RunError Summary} (h : Ledger setup plan rounds s)
    (hrunning : s.progress.phase = .running) (hact : setup.act s = .done result t) :
    (∃ e, result = .error e) ∧ t.progress.phase = .stopped := by
  have hmove := h.move hrunning
  rw [hact] at hmove
  generalize hdone : Step.done result t = step at hmove
  cases hmove with
  | fails =>
      cases hdone
      exact ⟨⟨_, rfl⟩, rfl⟩
  | completes | goesOn | shutdown => cases hdone

end Ledger

namespace Setup

variable {setup : Setup σ β} {plan : Plan} {world : World σ β} {s : Session σ β}

/-- **The sessions of a run keep the account.** -/
theorem exists_ledger (h : setup.Leads (.fresh plan world) s) :
    ∃ rounds, Ledger setup plan rounds s :=
  leads_preserves (motive := fun t => ∃ rounds, Ledger setup plan rounds t)
    ⟨[], .fresh setup plan world⟩ (fun _ _ ⟨_, h⟩ => h.step) h

/-- **The session in which a run ends keeps the account**, and has stopped. Without an error, the run
tells what the session has. -/
theorem exists_ledger_of_ends {result : Except RunError Summary} {final : Session σ β}
    (h : setup.Ends (.fresh plan world) result final) :
    (∃ rounds, Ledger setup plan rounds final) ∧ final.progress.phase = .stopped ∧
      ∀ summary, result = .ok summary → summary = final.summary := by
  have hfinal : ∃ rounds, Ledger setup plan rounds final :=
    ends_preserves (motive := fun t => ∃ rounds, Ledger setup plan rounds t)
      ⟨[], .fresh setup plan world⟩ (fun _ _ ⟨_, h⟩ => h.step) h
  obtain ⟨t, hleads, hlast⟩ := exists_last h
  rcases step_done_cases hlast with ⟨hstopped, rfl, rfl⟩ | ⟨hrunning, hact⟩
  -- it had stopped before
  · exact ⟨hfinal, hstopped, fun summary hsummary => (Except.ok.inj hsummary).symm⟩
  -- an error stops it
  · obtain ⟨rounds, ht⟩ := exists_ledger hleads
    obtain ⟨⟨e, rfl⟩, hstopped⟩ := ht.fault_of_act hrunning hact
    exact ⟨hfinal, hstopped, nofun⟩

end Setup

/-! ## The order of starts and sweeps -/

/-- What a loop calls for: a start of the program, or a sweep. -/
inductive Call where
  | invoke (index : UInt64) (command : Command)
  | sweep (index : UInt64)

/-- The call that an event tells of, if it does. -/
def Event.call? : Event → Option Call
  | invoked index command => some (.invoke index command)
  | swept index _ => some (.sweep index)
  | returned .. | abandoned _ => none

/-- **The strict alternation**: a start and a sweep in turn, the first of each with index one. -/
def alternation (command : Command) (n : Nat) : Call :=
  if n % 2 = 0 then .invoke (.ofNat (n / 2 + 1)) command else .sweep (.ofNat (n / 2 + 1))

theorem alternation_even (command : Command) (n : Nat) :
    alternation command (2 * n) = .invoke (.ofNat (n + 1)) command := by
  rw [alternation, if_pos (Nat.mul_mod_right 2 n), Nat.mul_div_cancel_left n Nat.two_pos]

theorem alternation_odd (command : Command) (n : Nat) :
    alternation command (2 * n + 1) = .sweep (.ofNat (n + 1)) := by
  rw [alternation, if_neg (by omega), show (2 * n + 1) / 2 = n by omega]

theorem Round.calls_trace (command : Command) (rounds : List Round) :
    (trace command rounds).filterMap Event.call? =
      (List.range (2 * rounds.length)).map (alternation command) := by
  induction rounds using List.reverseRecOn with
  | nil => rfl
  | append_singleton rounds c ih =>
      have hcalls : (c.events command (Round.next rounds)).filterMap Event.call? =
          [alternation command (2 * rounds.length), alternation command (2 * rounds.length + 1)] := by
        rw [alternation_even, alternation_odd]
        rfl
      rw [trace_concat, List.filterMap_append, ih, hcalls, List.length_append, List.length_singleton,
        Nat.mul_succ, List.range_succ, List.range_succ, List.map_append, List.map_append,
        List.append_assoc]
      rfl

namespace Ledger

variable {setup : Setup σ β} {plan : Plan} {rounds : List Round} {s : Session σ β}

/-- **Starts and sweeps alternate.** -/
theorem exists_calls (h : Ledger setup plan rounds s) :
    ∃ n, s.events.filterMap Event.call? = (List.range n).map (alternation setup.command) := by
  obtain ⟨rest, hevents, hrest⟩ := h.events
  -- an incomplete iteration has at most its start and its sweep in the trace
  have hcalls : ∃ n, rest.filterMap Event.call? =
      (List.range n).map fun i => alternation setup.command (2 * rounds.length + i) := by
    have hinvoke := alternation_even setup.command rounds.length
    have hsweep := alternation_odd setup.command rounds.length
    generalize s.progress.stopReason = reason at hrest
    generalize s.activity = activity at hrest
    cases hrest with
    | checking => exact ⟨0, rfl⟩
    | limit => exact ⟨0, rfl⟩
    | shutdown => exact ⟨0, rfl⟩
    | starting => exact ⟨0, rfl⟩
    | awaiting | listening | abandoned | failed | sweeping =>
        exact ⟨1, (congrArg ([·]) hinvoke).symm⟩
    | unlisted => exact ⟨2, (congrArg₂ ([·, ·]) hinvoke hsweep).symm⟩
  obtain ⟨n, hcalls⟩ := hcalls
  refine ⟨2 * rounds.length + n, ?_⟩
  rw [hevents, List.filterMap_append, Round.calls_trace, hcalls, List.range_add, List.map_append,
    List.map_map]
  rfl

/-- **A sweep follows a start whose program ended in a tolerated way**, and no other. -/
theorem swept_iff (h : Ledger setup plan rounds s) (index : UInt64) :
    ((∃ result, .swept index result ∈ s.events) ∨ ∃ exit, s.activity = .sweep index exit) ↔
      ∃ result, .returned index result ∈ s.events ∧ plan.tolerates result = true := by
  obtain ⟨rest, hevents, hrest⟩ := h.events
  rw [hevents]
  simp only [List.mem_append, exists_or, or_and_right, or_assoc]
  rw [hrest.swept_iff, Round.swept_iff _ h.tolerated]

end Ledger

/-- **What the account of a session says**: its ledger, that starts of the program and sweeps alternate,
every start with the same command, and that a sweep follows the ends of the program that are tolerated,
and no others. -/
structure Account (setup : Setup σ β) (plan : Plan) (rounds : List Round) (s : Session σ β) : Prop
    extends Ledger setup plan rounds s where
  calls : ∃ n, s.events.filterMap Event.call? = (List.range n).map (alternation setup.command)
  swept : ∀ index,
    ((∃ result, .swept index result ∈ s.events) ∨ ∃ exit, s.activity = .sweep index exit) ↔
      ∃ result, .returned index result ∈ s.events ∧ plan.tolerates result = true

theorem Ledger.account {setup : Setup σ β} {plan : Plan} {rounds : List Round} {s : Session σ β}
    (h : Ledger setup plan rounds s) : Account setup plan rounds s :=
  { h with calls := h.exists_calls, swept := h.swept_iff }

/-- **Every run keeps its account.** Whatever the program does, and whenever requests arrive, every
session that a fresh run goes through, and the one it ends in, has completed some iterations one after
another, and has an account of them; in the last one nothing is left to be done. A run that ends without
an error tells how many they are and the sums over their sweeps. -/
theorem run_keeps_account (setup : Setup σ β) (plan : Plan) (world : World σ β) :
    (∀ s, setup.Leads (.fresh plan world) s → ∃ rounds, Account setup plan rounds s) ∧
      ∀ fuel result final, setup.run fuel (.fresh plan world) = some (result, final) →
        ∃ rounds, Account setup plan rounds final ∧ final.activity = .check ∧
          ∀ summary, result = .ok summary →
            summary.iterations = .ofNat rounds.length ∧ summary.totals = Round.totals rounds := by
  constructor
  · intro s hleads
    obtain ⟨rounds, h⟩ := Setup.exists_ledger hleads
    exact ⟨rounds, h.account⟩
  · intro fuel result final hrun
    obtain ⟨⟨rounds, h⟩, hstopped, hsummary⟩ :=
      Setup.exists_ledger_of_ends ⟨fuel, setup.run_fresh fuel plan world ▸ hrun⟩
    refine ⟨rounds, h.account, h.activity_of_stopped hstopped, fun summary hok => ?_⟩
    rw [hsummary summary hok]
    exact ⟨h.completed, h.totals⟩

/-- A configuration for three iterations of a rehearsal. -/
def Rehearsal.threefold : Config where
  toDraft := { draft with repetition := { maxIterations := some 3 } }
  valid := by rfl

/-- The loop that it describes, over a program that follows a script. -/
def scripted : Setup Tree Script :=
  Rehearsal.threefold.setup Tree.fileSystem (Script.launcher Tree.scripted) true

/-- The world in which a script is begun. -/
def scriptedWorld (entries : List ScriptEntry) : World Tree Script :=
  { store := Rehearsal.tree, launcher := { entries } }

/-- Three starts that write a file each: a large one, a small one after some time, and again a large one,
after which the program reports a failure. -/
def threeStarts : List ScriptEntry :=
  [{ writes := [(.ofText "/run/a.dat", 500000000)] },
    { yields := 2, lateWrites := [(.ofText "/run/b.dat", 1)] },
    { writes := [(.ofText "/run/c.dat", 200000000)], result := .ok (.failed 3) }]

theorem threeStarts_run :
    (scripted.run 17 (.fresh Rehearsal.threefold.plan (scriptedWorld threeStarts))).map
        (fun ended => ended.1.toOption) =
      some (some
        { iterations := 3
          stopReason := .iterationLimit
          totals := { archived := 2, deleted := 1, failures := 0 } }) := by
  decide +kernel

/-- The account of three iterations, each with a file of its own. -/
theorem threeStarts_keep_account :
    ∃ summary final rounds,
      scripted.run 17 (.fresh Rehearsal.threefold.plan (scriptedWorld threeStarts)) =
          some (.ok summary, final) ∧
        Account scripted Rehearsal.threefold.plan rounds final ∧
          summary.iterations = .ofNat rounds.length ∧ summary.iterations = 3 ∧
            Round.totals rounds = { archived := 2, deleted := 1, failures := 0 } := by
  obtain ⟨⟨result, final⟩, hrun, hresult⟩ := Option.map_eq_some_iff.mp threeStarts_run
  cases result with
  | error e => cases hresult
  | ok summary =>
      obtain rfl := Option.some.inj hresult
      obtain ⟨rounds, haccount, -, hsums⟩ := (run_keeps_account scripted _ _).2 _ _ _ hrun
      obtain ⟨hiterations, htotals⟩ := hsums _ rfl
      exact ⟨_, final, rounds, hrun, haccount, hiterations, rfl, htotals.symm⟩

end RunSweep
