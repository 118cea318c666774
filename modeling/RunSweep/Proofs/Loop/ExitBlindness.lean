import Mathlib.Data.List.Forall2
import RunSweep.Loop.Rehearsal
import RunSweep.Loop.Script
import RunSweep.Proofs.Loop.Steps

/-!
# The loop does not look at exit reports

Two launchers whose programs do the same, and differ only in ends that the loop tolerates, lead to the
same run. `Session.Alike` relates the sessions of two such runs. Every step leads from related sessions
to related ones, and if one run is over then so is the other, with the same result. What is told of the
ends of programs, in the history and among the events, is all that differs.
-/

namespace RunSweep

variable {σ β β' : Type}

/-- Two ends of a program that the loop takes for the same: equal, or both tolerated. -/
def Plan.Equates (plan : Plan) (result result' : Except RunError ExitReport) : Prop :=
  result = result' ∨ plan.tolerates result = true ∧ plan.tolerates result' = true

theorem Plan.Equates.refl (plan : Plan) (result : Except RunError ExitReport) :
    plan.Equates result result :=
  .inl rfl

/-! ## Programs that do the same -/

/-- Two stages that leave the same, launchers' states apart, which are related by `R`. -/
structure Stage.Alike (R : β → β' → Prop) (stage : Stage σ β) (stage' : Stage σ β') : Prop where
  store : stage.store = stage'.store
  launcher : R stage.launcher stage'.launcher
  requests : stage.requests = stage'.requests

/-- **Two runs of a program that do the same** at every look, and end in ways that the loop takes for the
same. -/
inductive Attempt.Alike (plan : Plan) (R : β → β' → Prop) :
    Attempt σ β → Attempt σ β' → Prop where
  | ended {stage : Stage σ β} {stage' : Stage σ β'} {result result' : Except RunError ExitReport} :
      stage.Alike R stage' → plan.Equates result result' →
        Alike plan R (.ended stage result) (.ended stage' result')
  | pending {stage : Stage σ β} {stage' : Stage σ β'} {rest : Attempt σ β} {rest' : Attempt σ β'} :
      stage.Alike R stage' → Alike plan R rest rest' →
        Alike plan R (.pending stage rest) (.pending stage' rest')
  | endless {stages : Nat → Stage σ β} {stages' : Nat → Stage σ β'} :
      (∀ n, (stages n).Alike R (stages' n)) → Alike plan R (.endless stages) (.endless stages')

/-- What two looks find that do the same. -/
inductive Poll.Alike (plan : Plan) (R : β → β' → Prop) : Poll σ β → Poll σ β' → Prop where
  | ended {result result' : Except RunError ExitReport} :
      plan.Equates result result' → Alike plan R (.ended result) (.ended result')
  | pending {rest : Attempt σ β} {rest' : Attempt σ β'} :
      rest.Alike plan R rest' → Alike plan R (.pending rest) (.pending rest')

theorem Attempt.Alike.poll {plan : Plan} {R : β → β' → Prop} {course : Attempt σ β}
    {course' : Attempt σ β'} (h : course.Alike plan R course') :
    course.poll.1.Alike R course'.poll.1 ∧ course.poll.2.Alike plan R course'.poll.2 := by
  cases h with
  | ended hstage hresult => exact ⟨hstage, .ended hresult⟩
  | pending hstage hrest => exact ⟨hstage, .pending hrest⟩
  | endless hstages => exact ⟨hstages 0, .pending (.endless fun n => hstages (n + 1))⟩

/-! ## Sessions that agree but for the ends of programs -/

/-- Two complete iterations that differ at most in how the program ended. -/
structure Iteration.SameButExit (i i' : Iteration) : Prop where
  index : i.index = i'.index
  report : i.report = i'.report

/-- Two events that differ at most in how a program ended. -/
inductive Event.SameButExit (plan : Plan) : Event → Event → Prop where
  | same (event : Event) : SameButExit plan event event
  | returned (index : UInt64) {result result' : Except RunError ExitReport} :
      plan.Equates result result' → SameButExit plan (.returned index result) (.returned index result')

/-- **Two sessions that differ at most in how programs ended**: they have come as far, hold the same store
and the same sums, and have been through the same starts and sweeps with the same reports. -/
structure Session.SameButExits (plan : Plan) (s : Session σ β) (s' : Session σ β') : Prop where
  progress : s.progress = s'.progress
  store : s.world.store = s'.world.store
  totals : s.totals = s'.totals
  history : List.Forall₂ Iteration.SameButExit s.history s'.history
  events : List.Forall₂ (Event.SameButExit plan) s.events s'.events

/-- Two worlds that are the same, launchers' states apart. -/
structure World.Alike (R : β → β' → Prop) (w : World σ β) (w' : World σ β') : Prop where
  store : w.store = w'.store
  launcher : R w.launcher w'.launcher
  waiting : w.waiting = w'.waiting
  arrivals : w.arrivals = w'.arrivals

/-- What two loops do next, if they do the same. -/
inductive Activity.Alike (plan : Plan) (R : β → β' → Prop) :
    Activity σ β → Activity σ β' → Prop where
  | check : Alike plan R .check .check
  | start : Alike plan R .start .start
  | await (index : UInt64) {course : Attempt σ β} {course' : Attempt σ β'} :
      course.Alike plan R course' → Alike plan R (.await index course) (.await index course')
  | listen (index : UInt64) {rest : Attempt σ β} {rest' : Attempt σ β'} :
      rest.Alike plan R rest' → Alike plan R (.listen index rest) (.listen index rest')
  | sweep (index : UInt64) (exit exit' : Option ExitReport) :
      Alike plan R (.sweep index exit) (.sweep index exit')

/-- **Two sessions that do the same from now on** and have done so. -/
structure Session.Alike (plan : Plan) (R : β → β' → Prop) (s : Session σ β) (s' : Session σ β') : Prop
    extends Session.SameButExits plan s s' where
  plan_eq : s.progress.plan = plan
  world : s.world.Alike R s'.world
  activity : s.activity.Alike plan R s'.activity

/-- Two steps that lead to sessions that do the same, or end with the same result. -/
inductive Step.Alike (plan : Plan) (R : β → β' → Prop) : Step σ β → Step σ β' → Prop where
  | next {s : Session σ β} {s' : Session σ β'} :
      s.Alike plan R s' → Alike plan R (.next s) (.next s')
  | done (result : Except RunError Summary) {s : Session σ β} {s' : Session σ β'} :
      s.Alike plan R s' → Alike plan R (.done result s) (.done result s')

variable {plan : Plan} {R : β → β' → Prop}

namespace World.Alike

variable {w : World σ β} {w' : World σ β'} (h : w.Alike R w')

include h

theorem send (requests : Nat) : (w.send requests).Alike R (w'.send requests) where
  store := h.store
  launcher := h.launcher
  waiting := congrArg (fun waiting => min channelCapacity (waiting + requests)) h.waiting
  arrivals := h.arrivals

theorem after {stage : Stage σ β} {stage' : Stage σ β'} (hstage : stage.Alike R stage') :
    (w.after stage).Alike R (w'.after stage') := by
  have hreached : ({ w with store := stage.store, launcher := stage.launcher } : World σ β).Alike R
      { w' with store := stage'.store, launcher := stage'.launcher } :=
    ⟨hstage.store, hstage.launcher, h.waiting, h.arrivals⟩
  rw [World.after, World.after, hstage.requests]
  exact hreached.send _

theorem moment : w.moment.Alike R w'.moment := by
  unfold World.moment
  rw [← h.arrivals]
  split
  · exact h
  · rename_i requests later _
    have hlater : ({ w with arrivals := later } : World σ β).Alike R { w' with arrivals := later } :=
      ⟨h.store, h.launcher, h.waiting, rfl⟩
    exact hlater.send requests

/-- The same requests are found. -/
theorem receive : w.receive.1 = w'.receive.1 ∧ w.receive.2.Alike R w'.receive.2 := by
  unfold World.receive
  rw [← h.waiting]
  split_ifs
  · exact ⟨rfl, h⟩
  · exact ⟨rfl, h.store, h.launcher, rfl, h.arrivals⟩

end World.Alike

namespace Session.Alike

variable {s : Session σ β} {s' : Session σ β'} (h : s.Alike plan R s')

include h

/-! ## The parts of a step -/

theorem withWorld {w : World σ β} {w' : World σ β'} (hw : w.Alike R w') :
    ({ s with world := w } : Session σ β).Alike plan R { s' with world := w' } :=
  { h with store := hw.store, world := hw }

theorem withActivity {activity : Activity σ β} {activity' : Activity σ β'}
    (hactivity : activity.Alike plan R activity') :
    ({ s with activity } : Session σ β).Alike plan R { s' with activity := activity' } :=
  { h with activity := hactivity }

theorem withProgress (progress : Progress) (hplan : progress.plan = plan) :
    ({ s with progress } : Session σ β).Alike plan R { s' with progress } :=
  { h with progress := rfl, plan_eq := hplan }

theorem record {event event' : Event} (hevent : event.SameButExit plan event') :
    (s.record event).Alike plan R (s'.record event') :=
  { h with events := List.rel_append h.events (.cons hevent .nil) }

theorem moment : s.moment.Alike plan R s'.moment :=
  h.withWorld h.world.moment

theorem stop (reason : StopReason) : (s.stop reason).Alike plan R (s'.stop reason) := by
  have hstopped := h.withProgress (s.progress.stop reason) h.plan_eq
  rw [Session.stop, Session.stop, ← h.progress]
  exact hstopped.withActivity .check

theorem fail (e : RunError) : (s.fail e).Alike plan R (s'.fail e) :=
  .done _ (h.stop .fault)

theorem summary_eq : s.summary = s'.summary := by
  rw [summary, summary, h.progress, h.totals]

theorem check : s.check.Alike plan R s'.check := by
  obtain ⟨hfound, hworld⟩ := h.world.receive
  unfold Session.check
  rcases hreceive : s.world.receive with ⟨_ | _, w⟩ <;>
    rcases hreceive' : s'.world.receive with ⟨_ | _, w'⟩ <;>
    rw [hreceive, hreceive'] at hfound hworld
  · exact .next ((h.withWorld hworld).withActivity .start)
  · cases hfound
  · cases hfound
  · exact .next ((h.withWorld hworld).stop _)

theorem listen (index : UInt64) {rest : Attempt σ β} {rest' : Attempt σ β'}
    (hrest : rest.Alike plan R rest') :
    (s.listen index rest).Alike plan R (s'.listen index rest') := by
  obtain ⟨hfound, hworld⟩ := h.world.receive
  unfold Session.listen
  rcases hreceive : s.world.receive with ⟨_ | _, w⟩ <;>
    rcases hreceive' : s'.world.receive with ⟨_ | _, w'⟩ <;>
    rw [hreceive, hreceive'] at hfound hworld
  · exact .next ((h.withWorld hworld).withActivity (.await index hrest))
  · cases hfound
  · cases hfound
  · exact .next (((h.withWorld hworld).record (.same _)).stop _)

/-- **After either of two tolerated ends there is a sweep**, and the loop fails after no other ends but
equal ones. -/
theorem resume (index : UInt64) {result result' : Except RunError ExitReport}
    (hresult : plan.Equates result result') :
    (s.resume index result).Alike plan R (s'.resume index result') := by
  have hplan' : s'.progress.plan = plan := h.progress ▸ h.plan_eq
  by_cases htolerates : plan.tolerates result = true ∧ plan.tolerates result' = true
  · rw [resume_of_tolerated (h.plan_eq ▸ htolerates.1),
      resume_of_tolerated (hplan' ▸ htolerates.2)]
    exact .next (h.withActivity (.sweep index _ _))
  · obtain rfl := hresult.resolve_right htolerates
    rw [and_self] at htolerates
    cases result with
    | ok => exact absurd rfl htolerates
    | error e =>
        rw [resume_of_fatal (h.plan_eq ▸ htolerates), resume_of_fatal (hplan' ▸ htolerates)]
        exact h.fail e

theorem await (index : UInt64) {course : Attempt σ β} {course' : Attempt σ β'}
    (hcourse : course.Alike plan R course') :
    (s.await index course).Alike plan R (s'.await index course') := by
  obtain ⟨hstage, hpoll⟩ := hcourse.poll
  unfold Session.await
  generalize course.poll = found at hstage hpoll
  generalize course'.poll = found' at hstage hpoll
  obtain ⟨stage, poll⟩ := found
  obtain ⟨stage', poll'⟩ := found'
  have hafter := h.withWorld (h.world.after hstage)
  cases hpoll with
  | ended hresult => exact (hafter.record (.returned index hresult)).resume index hresult
  | pending hrest => exact .next (hafter.withActivity (.listen index hrest))

end Session.Alike

namespace Setup

/-- **Two setups that differ only in their launchers**, whose programs do the same when started alike. -/
structure Alike (plan : Plan) (R : β → β' → Prop) (setup : Setup σ β) (setup' : Setup σ β') :
    Prop where
  command : setup.command = setup'.command
  sweeper : setup.sweeper = setup'.sweeper
  fileSystem : setup.fileSystem = setup'.fileSystem
  keepHistory : setup.keepHistory = setup'.keepHistory
  launch : ∀ store b b', R b b' →
    (setup.launcher.launch setup.command store b).Alike plan R
      (setup'.launcher.launch setup.command store b')

namespace Alike

variable {setup : Setup σ β} {setup' : Setup σ β'} (hsetup : setup.Alike plan R setup')
  {s : Session σ β} {s' : Session σ β'} (h : s.Alike plan R s')

include hsetup h

theorem start : (setup.start s).Alike plan R (setup'.start s') := by
  unfold Setup.start
  rcases hbegin : s.progress.begin with e | ⟨index, progress⟩ <;>
    have hbegin' := hbegin <;> rw [h.progress] at hbegin' <;> rw [hbegin']
  · exact .done _ (h.withActivity .check)
  · have hplan : progress.plan = plan := (Progress.plan_of_begin hbegin).trans h.plan_eq
    have hcourse := hsetup.launch s.world.store _ _ h.world.launcher
    have hstarted := (h.record (.same (.invoked index setup.command))).withProgress _ hplan
    dsimp only
    rw [← hsetup.command, ← h.world.store]
    exact .next (hstarted.withActivity (.await index hcourse))

theorem enter {iteration iteration' : Iteration} (hiteration : iteration.SameButExit iteration') :
    (setup.enter s iteration).Alike plan R (setup'.enter s' iteration') := by
  have htotals : s.totals.add iteration.report = s'.totals.add iteration'.report := by
    rw [h.totals, hiteration.report]
  have hhistory : List.Forall₂ Iteration.SameButExit
      (if setup.keepHistory then s.history ++ [iteration] else s.history)
      (if setup'.keepHistory then s'.history ++ [iteration'] else s'.history) := by
    rw [← hsetup.keepHistory]
    split_ifs
    · exact List.rel_append h.history (.cons hiteration .nil)
    · exact h.history
  exact { h with totals := htotals, history := hhistory }

/-- **Two sweeps report the same**, whatever the ends of the programs before them. -/
theorem sweep (index : UInt64) (exit exit' : Option ExitReport) :
    (setup.sweep s index exit).Alike plan R (setup'.sweep s' index exit') := by
  have hworld (store : σ) : ({ s.world with store } : World σ β).Alike R { s'.world with store } :=
    ⟨rfl, h.world.launcher, h.world.waiting, h.world.arrivals⟩
  have hswept (result : Except Fault Report) (store : σ) :
      (s.swept index result store).Alike plan R (s'.swept index result store) :=
    ((h.withWorld (hworld store)).withActivity .check).record (.same (.swept index result))
  rcases setup.sweep_cases s with ⟨report, store, hsweep⟩ | ⟨fault, store, hsweep⟩ <;>
    have hsweep' := hsweep <;>
    rw [hsetup.sweeper, hsetup.fileSystem, h.world.store] at hsweep'
  · rw [sweep_of_report hsweep, sweep_of_report hsweep', ← h.progress]
    have hsame : Iteration.SameButExit { index, exit, report } { index, exit := exit', report } :=
      ⟨rfl, rfl⟩
    have hentered := hsetup.enter (hswept (.ok report) store) hsame
    split
    · rename_i progress hfinish
      exact .next (hentered.withProgress _ ((Progress.plan_of_finish hfinish).trans h.plan_eq))
    · exact .done _ hentered
  · rw [sweep_of_unlisted hsweep, sweep_of_unlisted hsweep', ← hsetup.sweeper]
    exact (hswept (.error fault) store).fail _

/-- **Every step of two loops that are alike** leads to sessions that are alike, or ends both. -/
theorem step : (setup.step s).Alike plan R (setup'.step s') := by
  unfold Setup.step
  rw [← h.progress]
  split
  · rw [h.summary_eq]
    exact .done _ h
  · have hact : (setup.act s).Alike plan R (setup'.act s') := by
      unfold Setup.act
      have hactivity := h.activity
      generalize s.activity = activity at hactivity
      generalize s'.activity = activity' at hactivity
      cases hactivity with
      | check => exact h.check
      | start => exact hsetup.start h
      | await index hcourse => exact h.await index hcourse
      | listen index hrest => exact h.listen index hrest
      | sweep index exit exit' => exact hsetup.sweep h index exit exit'
    generalize setup.act s = next at hact
    generalize setup'.act s' = next' at hact
    cases hact with
    | next h => exact .next h.moment
    | done result h => exact .done result h

/-! ## Whole runs -/

/-- **Runs with as many steps**: neither is over, or both are, with the same result. -/
theorem go (fuel : Nat) :
    Option.Rel (fun r r' => r.1 = r'.1 ∧ r.2.Alike plan R r'.2) (setup.go fuel s)
      (setup'.go fuel s') := by
  induction fuel generalizing s s' with
  | zero => exact .none
  | succ fuel ih =>
      have hstep := hsetup.step h
      unfold Setup.go
      generalize setup.step s = next at hstep
      generalize setup'.step s' = next' at hstep
      cases hstep with
      | next h => exact ih h
      | done result h => exact .some ⟨rfl, h⟩

/-- **Whatever session one run comes to**, the other comes to one like it. -/
theorem leads {t : Session σ β} (hleads : setup.Leads s t) :
    ∃ t', setup'.Leads s' t' ∧ t.Alike plan R t' := by
  induction hleads with
  | refl => exact ⟨s', .refl, h⟩
  | @tail u v _ hnext ih =>
      obtain ⟨u', hleads', hu⟩ := ih
      have hstep := hsetup.step hu
      rw [hnext] at hstep
      generalize hnext' : setup'.step u' = next' at hstep
      cases hstep with
      | next hv => exact ⟨_, hleads'.tail hnext', hv⟩

end Alike

end Setup

/-! ## Scripts that do the same -/

/-- Two entries of scripts that do the same and end in ways that the loop takes for the same. -/
structure ScriptEntry.Alike (plan : Plan) (command : Command) (e e' : ScriptEntry) : Prop where
  writes : e.writes = e'.writes
  failing : e.failing = e'.failing
  requests : e.requests = e'.requests
  hangUp : e.hangUp = e'.hangUp
  yields : e.yields = e'.yields
  lateWrites : e.lateWrites = e'.lateWrites
  result : plan.Equates (e.result.mapError (·.toRunError command))
    (e'.result.mapError (·.toRunError command))

/-- **Two scripts whose entries do the same**, one by one. -/
structure Script.Alike (plan : Plan) (command : Command) (s s' : Script) : Prop where
  entries : List.Forall₂ (ScriptEntry.Alike plan command) s.entries s'.entries
  again : s.again = s'.again
  connected : s.connected = s'.connected

namespace Script.Alike

variable {command : Command} {s s' : Script} (h : s.Alike plan command s')

include h

/-- The entries that are next do the same, and so do the scripts behind them. -/
theorem next :
    Option.Rel (ScriptEntry.Alike plan command) s.next.1 s'.next.1 ∧
      s.next.2.Alike plan command s'.next.2 := by
  obtain ⟨entries, again, connected⟩ := s
  obtain ⟨entries', again', connected'⟩ := s'
  obtain ⟨hentries, rfl, rfl⟩ := h
  cases hentries with
  | nil => exact ⟨.none, .nil, rfl, rfl⟩
  | cons he hrest =>
      refine ⟨?_, ?_⟩
      · cases hrest <;> exact .some he
      · cases hrest with
        | nil =>
            unfold Script.next
            dsimp only
            split_ifs
            · exact ⟨.cons he .nil, rfl, rfl⟩
            · exact ⟨.nil, rfl, rfl⟩
        | cons he' hrest => exact ⟨.cons he' hrest, rfl, rfl⟩

omit h in
/-- To be pending as often makes no difference. -/
theorem pendTimes {R : Script → Script → Prop} {stage stage' : Stage σ Script}
    {last last' : Attempt σ Script} (hstage : stage.Alike R stage') (hlast : last.Alike plan R last')
    (n : Nat) : (Script.pendTimes stage last n).Alike plan R (Script.pendTimes stage' last' n) := by
  induction n with
  | zero => exact hlast
  | succ n ih => exact .pending hstage ih

/-- **Programs that such scripts play do the same.** -/
theorem play (target : ScriptedStore σ) (store : σ) :
    (s.play target command store).Alike plan (Script.Alike plan command)
      (s'.play target command store) := by
  obtain ⟨hentry, hrest⟩ := h.next
  unfold Script.play
  generalize s.next = next at hentry hrest
  generalize s'.next = next' at hentry hrest
  obtain ⟨entry, rest⟩ := next
  obtain ⟨entry', rest'⟩ := next'
  cases hentry with
  | none => exact .ended ⟨rfl, hrest, rfl⟩ (.refl _ _)
  | @some e e' he =>
      have hplayed : ({ rest with connected := rest.connected && !e.hangUp } : Script).Alike plan
          command { rest' with connected := rest'.connected && !e'.hangUp } :=
        ⟨hrest.entries, hrest.again, by rw [hrest.connected, he.hangUp]⟩
      dsimp only
      rw [← he.writes, ← he.failing, ← he.requests, ← he.lateWrites, ← he.yields, ← hrest.connected,
        ← he.hangUp]
      rw [← hrest.connected, ← he.hangUp] at hplayed
      cases e.yields with
      | zero => exact .ended ⟨rfl, hplayed, rfl⟩ he.result
      | succ n =>
          refine .pending ?_ (pendTimes ?_ (.ended ?_ he.result) n)
          all_goals exact ⟨rfl, hplayed, rfl⟩

end Script.Alike

/-! ## The ends of programs do not matter -/

/-- **The exit status is never acted on.** Take any configuration, any store and any requests to arrive,
and two launchers whose programs do the same when they are started alike, apart from ends that the loop
tolerates: exit reports, and failed launches if the policy says to carry on. With any number of steps,
both runs are still going on or both are over, with equal results; and whatever session one of them comes
to, the other comes to one with the same starts, the same sweeps and reports, and the same store. Only
what is told of the ends of programs differs. -/
theorem run_blind_to_exit (c : Config) (fileSystem : FileSystem σ) (launcher : Launcher σ β)
    (launcher' : Launcher σ β') (keepHistory : Bool)
    (hlaunch : ∀ store b b', R b b' → (launcher.launch c.command store b).Alike c.plan R
      (launcher'.launch c.command store b'))
    {world : World σ β} {world' : World σ β'} (hworld : world.Alike R world') :
    (∀ fuel, Option.Rel (fun r r' => r.1 = r'.1 ∧ r.2.SameButExits c.plan r'.2)
      ((c.setup fileSystem launcher keepHistory).run fuel (.fresh c.plan world))
      ((c.setup fileSystem launcher' keepHistory).run fuel (.fresh c.plan world'))) ∧
    ∀ s, (c.setup fileSystem launcher keepHistory).Leads (.fresh c.plan world) s →
      ∃ s', (c.setup fileSystem launcher' keepHistory).Leads (.fresh c.plan world') s' ∧
        s.SameButExits c.plan s' := by
  have hsetup : (c.setup fileSystem launcher keepHistory).Alike c.plan R
      (c.setup fileSystem launcher' keepHistory) := ⟨rfl, rfl, rfl, rfl, hlaunch⟩
  have hfresh : (Session.fresh c.plan world).Alike c.plan R (.fresh c.plan world') :=
    { progress := rfl, store := hworld.store, totals := rfl, history := .nil, events := .nil
      plan_eq := rfl, world := hworld, activity := .check }
  constructor
  · intro fuel
    rw [Setup.run_fresh, Setup.run_fresh]
    have hgo := hsetup.go hfresh fuel
    generalize (c.setup fileSystem launcher keepHistory).go fuel _ = ended at hgo
    generalize (c.setup fileSystem launcher' keepHistory).go fuel _ = ended' at hgo
    cases hgo with
    | none => exact .none
    | some h => exact .some ⟨h.1, h.2.toSameButExits⟩
  · intro s hleads
    obtain ⟨s', hleads', h⟩ := hsetup.leads hfresh hleads
    exact ⟨s', hleads', h.toSameButExits⟩

/-- A configuration for two iterations of a rehearsal that carries on after a failed launch. -/
def stubborn : Config where
  toDraft :=
    { Rehearsal.draft with repetition := { maxIterations := some 2, onLaunchFailure := .carryOn } }
  valid := by rfl

/-- A program that writes a file and ends well, or is pending once, sends a request and ends well. -/
def steadyScript : Script where
  entries := [{ writes := [(.ofText "/run/a", 7)] }, { requests := 1, yields := 1 }]

/-- The same, except that the program is killed by a signal, and then cannot be started. -/
def shakyScript : Script where
  entries :=
    [{ writes := [(.ofText "/run/a", 7)], result := .ok { code := none, success := false } },
      { requests := 1, yields := 1, result := .error (.launch (.reported "no such binary")) }]

theorem steadyScript_alike : steadyScript.Alike stubborn.plan stubborn.command shakyScript := by
  have hfirst : ScriptEntry.Alike stubborn.plan stubborn.command { writes := [(.ofText "/run/a", 7)] }
      { writes := [(.ofText "/run/a", 7)], result := .ok { code := none, success := false } } :=
    ⟨rfl, rfl, rfl, rfl, rfl, rfl, .inr ⟨rfl, rfl⟩⟩
  have hsecond : ScriptEntry.Alike stubborn.plan stubborn.command { requests := 1, yields := 1 }
      { requests := 1, yields := 1, result := .error (.launch (.reported "no such binary")) } :=
    ⟨rfl, rfl, rfl, rfl, rfl, rfl, .inr ⟨rfl, rfl⟩⟩
  exact ⟨.cons hfirst (.cons hsecond .nil), rfl, rfl⟩

/-- The world in which a script is played. -/
def stageFor (script : Script) : World Tree Script :=
  { store := Rehearsal.tree, launcher := script }

/-- The loop that plays it, and keeps the history. -/
def stubbornLoop : Setup Tree Script :=
  stubborn.setup Tree.fileSystem (Script.launcher Tree.scripted) true

/-- The two scripts lead to the same runs. -/
theorem scripts_run_alike :
    (∀ store b b', b.Alike stubborn.plan stubborn.command b' →
      ((Script.launcher Tree.scripted).launch stubborn.command store b).Alike stubborn.plan
        (Script.Alike stubborn.plan stubborn.command)
        ((Script.launcher Tree.scripted).launch stubborn.command store b')) ∧
    (stageFor steadyScript).Alike (Script.Alike stubborn.plan stubborn.command)
      (stageFor shakyScript) ∧
    ∀ fuel, Option.Rel (fun r r' => r.1 = r'.1 ∧ r.2.SameButExits stubborn.plan r'.2)
      (stubbornLoop.run fuel (.fresh stubborn.plan (stageFor steadyScript)))
      (stubbornLoop.run fuel (.fresh stubborn.plan (stageFor shakyScript))) := by
  have hlaunch (store : Tree) (b b' : Script) (h : b.Alike stubborn.plan stubborn.command b') :
      ((Script.launcher Tree.scripted).launch stubborn.command store b).Alike stubborn.plan
        (Script.Alike stubborn.plan stubborn.command)
        ((Script.launcher Tree.scripted).launch stubborn.command store b') := h.play _ _
  have hworld : (stageFor steadyScript).Alike (Script.Alike stubborn.plan stubborn.command)
      (stageFor shakyScript) := ⟨rfl, steadyScript_alike, rfl, rfl⟩
  exact ⟨hlaunch, hworld, (run_blind_to_exit stubborn Tree.fileSystem _ _ true hlaunch hworld).1⟩

end RunSweep
