import RunSweep.Proofs.Loop.Shutdown

/-!
# Faults end a run

A program that ends in a way the plan does not tolerate ends the run at once, and so does a working
directory that cannot be listed. `Faulted` says what such a run leaves: only the iterations before the
last one count. However a run has ended, the loop stays as it is, and `Over` says that running it again
does nothing.
-/

namespace RunSweep

variable {σ β : Type}

/-- Whether an event completes an iteration. -/
def Event.completes : Event → Bool
  | swept _ (.ok _) => true
  | _ => false

/-! ## Counting events -/

namespace Round

variable {command : Command}

/-- What happens once in every iteration happens as often as there are iterations. -/
theorem countP_trace {p : Event → Bool} (h : ∀ index c, (events command index c).countP p = 1)
    (rounds : List Round) : (trace command rounds).countP p = rounds.length := by
  induction rounds using List.reverseRecOn with
  | nil => rfl
  | append_singleton rounds c ih =>
      rw [trace_concat, List.countP_append, ih, h, List.length_append, List.length_singleton]

/-- Iterations are recorded under their indices, counted from one. -/
theorem index_history (rounds : List Round) :
    (history rounds).map Iteration.index =
      (List.range rounds.length).map fun i => .ofNat (i + 1) := by
  induction rounds using List.reverseRecOn with
  | nil => rfl
  | append_singleton rounds c ih =>
      rw [history_concat, List.map_append, ih, List.length_append, List.length_singleton,
        List.range_succ, List.map_append]
      rfl

end Round

section Counts

variable {plan : Plan} {command : Command} {index : UInt64} {reason : Option StopReason}
  {activity : Activity σ β} {rest : List Event}

/-- An iteration that is not complete is not told of as complete. -/
theorem Rest.completions (h : Rest plan command index reason activity rest) :
    rest.countP Event.completes = 0 := by
  cases h <;> rfl

/-- The program is started once in an iteration that is not complete, if it is. -/
theorem Rest.starts (h : Rest plan command index reason activity rest) :
    rest.countP Event.isStart = if rest = [] then 0 else 1 := by
  cases h <;> rfl

end Counts

namespace Ledger

variable {setup : Setup σ β} {plan : Plan} {rounds : List Round} {s : Session σ β}

/-- The trace tells how many iterations are complete. -/
theorem completions (h : Ledger setup plan rounds s) :
    s.events.countP Event.completes = rounds.length := by
  obtain ⟨rest, hevents, hrest⟩ := h.events
  rw [hevents, List.countP_append, Round.countP_trace (fun _ _ => rfl), hrest.completions,
    Nat.add_zero]

/-- Every complete iteration started the program, and one more may be under way. -/
theorem exists_starts (h : Ledger setup plan rounds s) :
    ∃ rest, Rest plan setup.command (Round.next rounds) s.progress.stopReason s.activity rest ∧
      s.events.countP Event.isStart = rounds.length + if rest = [] then 0 else 1 := by
  obtain ⟨rest, hevents, hrest⟩ := h.events
  refine ⟨rest, hrest, ?_⟩
  rw [hevents, List.countP_append, Round.countP_trace (fun _ _ => rfl), hrest.starts]

/-- Every start has its number for an index. -/
theorem index_eq (h : Ledger setup plan rounds s) {index : UInt64}
    (hactivity : (∃ course, s.activity = .await index course) ∨ ∃ exit, s.activity = .sweep index exit) :
    index = .ofNat (s.events.countP Event.isStart) := by
  obtain ⟨rest, hrest, hstarts⟩ := h.exists_starts
  rw [hstarts]
  generalize s.progress.stopReason = reason at hrest
  rcases hactivity with ⟨course, hactivity⟩ | ⟨exit, hactivity⟩
  · rw [hactivity] at hrest
    cases hrest
    rfl
  · rw [hactivity] at hrest
    cases hrest
    rfl

end Ledger

/-! ## What a fault leaves -/

/-- **A fault in iteration `k` has stopped the loop**: the program was started `k` times, and the
iterations before are those that count and that are recorded. -/
structure Faulted (setup : Setup σ β) (k : Nat) (s : Session σ β) : Prop where
  phase : s.progress.phase = .stopped
  reason : s.progress.stopReason = some .fault
  idle : s.progress.underWay = false
  starts : s.events.countP Event.isStart = k
  pos : 0 < k
  completions : s.events.countP Event.completes = k - 1
  completed : s.progress.completed = .ofNat (k - 1)
  history : s.history.map Iteration.index =
    if setup.keepHistory then (List.range (k - 1)).map fun i => .ofNat (i + 1) else []

/-- A loop that has stopped because of a fault has the iterations before on its account. -/
theorem Ledger.faulted {setup : Setup σ β} {plan : Plan} {rounds : List Round} {s : Session σ β}
    (h : Ledger setup plan rounds s) (hreason : s.progress.stopReason = some .fault) :
    Faulted setup (rounds.length + 1) s := by
  have hphase : s.progress.phase = .stopped := by rw [h.phase, hreason]; rfl
  obtain ⟨rest, hrest, hstarts⟩ := h.exists_starts
  have hbegun : rest ≠ [] := by
    rw [hreason] at hrest
    generalize s.activity = activity at hrest
    cases hrest <;> exact List.cons_ne_nil _ _
  constructor
  case phase => exact hphase
  case reason => exact hreason
  case idle => rw [h.underWay, h.activity_of_stopped hphase]; rfl
  case starts => rw [hstarts, if_neg hbegun]
  case pos => exact Nat.succ_pos _
  case completions => exact h.completions
  case completed => exact h.completed
  case history =>
    rw [h.history]
    split
    · exact Round.index_history rounds
    · rfl

/-- **A run fails where it stands**: its step is the last one and ends it with an error. It adds one event
and leaves such a world, and the iteration does not count. -/
structure Fails (setup : Setup σ β) (plan : Plan) (world : World σ β) (s : Session σ β) (e : RunError)
    (event : Event) (last : World σ β) (final : Session σ β) : Prop where
  step : setup.step s = .done (.error e) final
  run : ∃ fuel, setup.run fuel (.fresh plan world) = some (.error e, final)
  events : final.events = s.events ++ [event]
  world : final.world = last
  faulted : Faulted setup (s.events.countP Event.isStart) final

namespace Setup

variable {setup : Setup σ β} {plan : Plan} {world : World σ β} {s t final later : Session σ β}

/-- **A loop that gives up on its iteration fails.** -/
theorem fails_of_fail (h : setup.Leads (.fresh plan world) s) (hrunning : s.progress.phase = .running)
    {e : RunError} {event : Event} (hevent : event.isStart = false)
    (hact : setup.act s = t.fail e) (hprogress : t.progress = s.progress)
    (hevents : t.events = s.events ++ [event]) :
    Fails setup plan world s e event t.world (t.stop .fault) := by
  obtain ⟨rounds, hledger⟩ := exists_ledger h
  have hstep : setup.step s = .done (.error e) (t.stop .fault) := step_of_act_done hrunning hact
  obtain ⟨rounds', hledger'⟩ := hledger.step
  rw [hstep] at hledger'
  have hreason : (t.stop .fault).progress.stopReason = some .fault := by
    show (t.progress.stop .fault).stopReason = _
    rw [hprogress]
    exact Progress.stopReason_stop (hledger.stopReason_of_running hrunning) _
  have hfaulted := hledger'.faulted hreason
  -- the last event is no start, so the starts are those of the session before
  have hstarts : s.events.countP Event.isStart = rounds'.length + 1 := by
    rw [← hfaulted.starts]
    show _ = t.events.countP Event.isStart
    rw [hevents, List.countP_append, List.countP_singleton, hevent]
    rfl
  obtain ⟨fuel, hrun⟩ := ends_of_leads h (ends_of_done hstep)
  constructor
  case step => exact hstep
  case run => exact ⟨fuel, hrun⟩
  case events => exact hevents
  case world => rfl
  case faulted => exact hstarts ▸ hfaulted

/-- A session with something left to be done has not stopped. -/
theorem running_of_leads (h : setup.Leads (.fresh plan world) s) (hactivity : s.activity ≠ .check) :
    s.progress.phase = .running := by
  obtain ⟨rounds, hledger⟩ := exists_ledger h
  rcases hphase : s.progress.phase
  · rfl
  · exact absurd (hledger.activity_of_stopped hphase) hactivity

/-- **A fatal end of the program** fails the run, which leaves the world as the program left it. -/
theorem fails_of_fatal (h : setup.Leads (.fresh plan world) s) {index : UInt64}
    {course : Attempt σ β} {stage : Stage σ β} {e : RunError}
    (hactivity : s.activity = .await index course)
    (hpoll : course.poll = (stage, .ended (.error e)))
    (hfatal : ¬plan.tolerates (.error e) = true) :
    Fails setup plan world s e (.returned index (.error e)) (s.world.after stage)
      ((s.returned index stage (.error e)).stop .fault) := by
  have hrunning := running_of_leads h (by simp [hactivity])
  obtain ⟨rounds, hledger⟩ := exists_ledger h
  refine fails_of_fail h hrunning rfl (t := s.returned index stage (.error e)) ?_ rfl rfl
  rw [act, hactivity]
  exact Session.await_of_fatal hpoll (hledger.plan_eq.symm ▸ hfatal)

/-- **A working directory that cannot be listed** fails the run, which leaves the store as listing left
it. -/
theorem fails_of_unlisted (h : setup.Leads (.fresh plan world) s) {index : UInt64}
    {exit : Option ExitReport} {fault : Fault} {store : σ} (hactivity : s.activity = .sweep index exit)
    (hread : setup.fileSystem.readDir setup.sweeper.workingDir s.world.store =
      (.error fault, store)) :
    Fails setup plan world s (.listDir setup.sweeper.workingDir fault) (.swept index (.error fault))
      { s.world with store } ((s.swept index (.error fault) store).stop .fault) := by
  have hrunning := running_of_leads h (by simp [hactivity])
  have hsweep : setup.sweeper.sweep setup.fileSystem s.world.store = (.error fault, store) := by
    rw [Sweeper.sweep, hread]
  refine fails_of_fail h hrunning rfl (t := s.swept index (.error fault) store) ?_ rfl rfl
  rw [act, hactivity]
  exact sweep_of_unlisted hsweep

/-! ## After a run -/

/-- **What may happen to a loop after a run**: the world may change, and the loop may be run again. -/
inductive Later (setup : Setup σ β) (final : Session σ β) : Session σ β → Prop where
  | ended : Later setup final final
  | meanwhile {s : Session σ β} (world : World σ β) :
      Later setup final s → Later setup final { s with world }
  | again {s last : Session σ β} {fuel : Nat} {result : Except RunError Summary} :
      Later setup final s → setup.run fuel s = some (result, last) → Later setup final last

/-- Running a loop that has stopped. -/
theorem run_of_stopped (setup : Setup σ β) (h : s.progress.phase = .stopped) {reason : StopReason}
    (hreason : s.progress.stopReason = some reason) (fuel : Nat) :
    setup.run (fuel + 1) s =
      some (.ok { iterations := s.progress.completed, stopReason := reason, totals := {} },
        { s with totals := {}, activity := .check }) := by
  have hstep := setup.step_of_stopped (s := { s with totals := {}, activity := .check }) h
  rw [run, go, hstep, Session.summary, hreason]
  rfl

/-- **A loop that has stopped stays as it is.** -/
theorem later_stopped (h : setup.Later final later) (hstopped : final.progress.phase = .stopped)
    {reason : StopReason} (hreason : final.progress.stopReason = some reason) :
    later.progress = final.progress ∧ later.events = final.events ∧
      later.history = final.history := by
  induction h with
  | ended => exact ⟨rfl, rfl, rfl⟩
  | meanwhile _ _ ih => exact ih
  | @again s last fuel result _ hrun ih =>
      cases fuel with
      | zero => cases hrun
      | succ fuel =>
          rw [run_of_stopped setup (ih.1 ▸ hstopped) (ih.1 ▸ hreason)] at hrun
          cases hrun
          exact ih

/-- **The loop is over**: whatever has happened since, running it again tells the same number of
iterations and the same reason and no sums. Nothing is started or swept, not even by a loop with another
program over another file system, and the history is left alone. -/
def Over (setup : Setup σ β) (final : Session σ β) (reason : StopReason) : Prop :=
  ∀ later, setup.Later final later →
    later.events = final.events ∧ later.history = final.history ∧
      ∀ (other : Setup σ β) (fuel : Nat), other.run (fuel + 1) later =
        some (.ok { iterations := final.progress.completed, stopReason := reason, totals := {} },
          { later with totals := {}, activity := .check })

theorem over_of_stopped (hstopped : final.progress.phase = .stopped) {reason : StopReason}
    (hreason : final.progress.stopReason = some reason) : setup.Over final reason := by
  intro later hlater
  obtain ⟨hprogress, hevents, hhistory⟩ := later_stopped hlater hstopped hreason
  refine ⟨hevents, hhistory, fun other fuel => ?_⟩
  rw [run_of_stopped other (hprogress ▸ hstopped) (hprogress ▸ hreason), hprogress]

/-- A run leaves a loop that has stopped, for the reason that it tells. -/
theorem exists_reason {result : Except RunError Summary}
    (h : setup.Ends (.fresh plan world) result final) :
    ∃ reason, final.progress.stopReason = some reason ∧
      ∀ summary, result = .ok summary →
        summary.iterations = final.progress.completed ∧ summary.stopReason = reason := by
  obtain ⟨⟨rounds, hledger⟩, hstopped, hsummary⟩ := exists_ledger_of_ends h
  have hphase := hledger.phase
  rw [hstopped] at hphase
  rcases hreason : final.progress.stopReason with _ | reason
  · rw [hreason] at hphase
    cases hphase
  · refine ⟨reason, rfl, fun summary hok => ?_⟩
    rw [hsummary summary hok, Session.summary, hreason]
    exact ⟨rfl, rfl⟩

end Setup

/-- **Faults end a run, and a run that has ended stays so.** In a session of a fresh run whose program
has ended in a way that the plan does not tolerate, the run fails with that very error, no matter what
the file system would do, and leaves what the program left. In one whose sweep cannot list the working
directory, it fails with that error, and leaves the store alone if listing does. After every run, failed
or not, the loop is over. -/
theorem faults_end_run (setup : Setup σ β) (plan : Plan) (world : World σ β) :
    (∀ s index course stage e, setup.Leads (.fresh plan world) s →
        s.activity = .await index course → course.poll = (stage, .ended (.error e)) →
        ¬plan.tolerates (.error e) = true →
        index = .ofNat (s.events.countP Event.isStart) ∧
          ∃ final, Fails setup plan world s e (.returned index (.error e)) (s.world.after stage)
              final ∧
            ∀ fileSystem, ({ setup with fileSystem } : Setup σ β).step s = .done (.error e) final) ∧
      (∀ s index exit fault store, setup.Leads (.fresh plan world) s →
        s.activity = .sweep index exit →
        setup.fileSystem.readDir setup.sweeper.workingDir s.world.store = (.error fault, store) →
        index = .ofNat (s.events.countP Event.isStart) ∧
          ∃ final, Fails setup plan world s (.listDir setup.sweeper.workingDir fault)
              (.swept index (.error fault)) { s.world with store } final ∧
            ((∀ path store, (setup.fileSystem.readDir path store).2 = store) →
              final.world = s.world)) ∧
      ∀ fuel result final, setup.run fuel (.fresh plan world) = some (result, final) →
        ∃ reason, final.progress.stopReason = some reason ∧
          (∀ summary, result = .ok summary →
            summary.iterations = final.progress.completed ∧ summary.stopReason = reason) ∧
          setup.Over final reason := by
  refine ⟨?_, ?_, ?_⟩
  · intro s index course stage e hleads hactivity hpoll hfatal
    obtain ⟨rounds, hledger⟩ := Setup.exists_ledger hleads
    have hfails := Setup.fails_of_fatal hleads hactivity hpoll hfatal
    refine ⟨hledger.index_eq (.inl ⟨course, hactivity⟩), _, hfails, fun fileSystem => ?_⟩
    rw [← hfails.step]
    unfold Setup.step Setup.act
    rw [hactivity]
  · intro s index exit fault store hleads hactivity hread
    obtain ⟨rounds, hledger⟩ := Setup.exists_ledger hleads
    refine ⟨hledger.index_eq (.inr ⟨exit, hactivity⟩), _,
      Setup.fails_of_unlisted hleads hactivity hread, fun hlists => ?_⟩
    have hstore := hlists setup.sweeper.workingDir s.world.store
    rw [hread] at hstore
    show { s.world with store } = s.world
    rw [show store = s.world.store from hstore]
  · intro fuel result final hrun
    have hends : setup.Ends (.fresh plan world) result final :=
      ⟨fuel, setup.run_fresh fuel plan world ▸ hrun⟩
    obtain ⟨reason, hreason, hsummary⟩ := Setup.exists_reason hends
    obtain ⟨-, hstopped, -⟩ := Setup.exists_ledger_of_ends hends
    exact ⟨reason, hreason, hsummary, Setup.over_of_stopped hstopped hreason⟩

/-! ## A fault after a complete iteration -/

/-- Whether the program is found not to have been started. -/
def Session.unlaunched (s : Session σ β) : Bool :=
  match s.activity with
  | .await _ (.ended _ (.error e)) => e.isLaunch
  | _ => false

/-- Whether a sweep comes next that cannot list the working directory. -/
def Setup.unlisted (setup : Setup σ β) (s : Session σ β) : Bool :=
  match s.activity with
  | .sweep .. =>
      (setup.fileSystem.readDir setup.sweeper.workingDir s.world.store).1.toOption.isNone
  | _ => false

theorem Session.exists_of_unlaunched {s : Session σ β} (h : s.unlaunched = true) :
    ∃ index stage e, s.activity = .await index (.ended stage (.error e)) ∧ e.isLaunch = true := by
  unfold unlaunched at h
  split at h
  · rename_i index stage e hactivity
    exact ⟨index, stage, e, hactivity, h⟩
  · cases h

theorem Setup.exists_of_unlisted {setup : Setup σ β} {s : Session σ β}
    (h : setup.unlisted s = true) :
    ∃ index exit fault store, s.activity = .sweep index exit ∧
      setup.fileSystem.readDir setup.sweeper.workingDir s.world.store = (.error fault, store) := by
  unfold unlisted at h
  split at h
  · rename_i index exit hactivity
    rcases hread : setup.fileSystem.readDir setup.sweeper.workingDir s.world.store with
      ⟨fault | listing, store⟩
    · exact ⟨index, exit, fault, store, hactivity, rfl⟩
    · rw [hread] at h
      cases h
  · cases h

/-- A start that writes a large file, and a second one that goes as it is told to. -/
def twoStarts (second : ScriptEntry) : List ScriptEntry :=
  [{ writes := [(.ofText "/run/a.dat", 500000000)] }, second]

/-- A world whose second start fails. -/
def groundedWorld : World Tree Script :=
  scriptedWorld (twoStarts { result := .error (.launch (.reported "no such program")) })

/-- A world in which the working directory can no longer be listed after the second start. -/
def barredWorld : World Tree Script :=
  scriptedWorld (twoStarts { failing := [(.readDir, Rehearsal.workingDir)] })

/-- **A second iteration fails after a complete one that is kept**: a launch that fails ends the run, and
so does a sweep that cannot list the working directory. -/
theorem second_iteration_fails :
    (∃ s e event last final, scripted.Leads (.fresh Rehearsal.threefold.plan groundedWorld) s ∧
        Fails scripted Rehearsal.threefold.plan groundedWorld s e event last final ∧
          e.isLaunch = true ∧ Faulted scripted 2 final ∧ final.history.map Iteration.index = [1] ∧
            scripted.Over final .fault) ∧
      ∃ s fault event last final,
        scripted.Leads (.fresh Rehearsal.threefold.plan barredWorld) s ∧
          Fails scripted Rehearsal.threefold.plan barredWorld s
            (.listDir scripted.sweeper.workingDir fault) event last final ∧
          final.world = s.world ∧ Faulted scripted 2 final ∧
            final.history.map Iteration.index = [1] := by
  constructor
  · obtain ⟨hfatal, -, hlater⟩ := faults_end_run scripted Rehearsal.threefold.plan groundedWorld
    obtain ⟨s, hleads, hs⟩ := scripted.leads_of_reach (n := 6)
      (s := .fresh Rehearsal.threefold.plan groundedWorld)
      (p := fun s => s.events.countP Event.isStart == 2 && s.unlaunched) (by decide +kernel)
    rw [Bool.and_eq_true, beq_iff_eq] at hs
    obtain ⟨index, stage, e, hactivity, hlaunch⟩ := Session.exists_of_unlaunched hs.2
    -- launches that fail are not tolerated by default
    have hfails : ¬Rehearsal.threefold.plan.tolerates (.error e) = true := by
      rw [Plan.tolerates, Bool.and_eq_true]
      exact fun htolerates => absurd htolerates.2 (by decide)
    obtain ⟨-, final, hfails, -⟩ := hfatal _ _ _ _ _ hleads hactivity rfl hfails
    have hfaulted : Faulted scripted 2 final := hs.1 ▸ hfails.faulted
    obtain ⟨fuel, hrun⟩ := hfails.run
    obtain ⟨reason, hreason, -, hover⟩ := hlater fuel _ _ hrun
    obtain rfl := Option.some.inj (hreason.symm.trans hfaulted.reason)
    exact ⟨s, e, _, _, final, hleads, hfails, hlaunch, hfaulted, hfaulted.history, hover⟩
  · obtain ⟨-, hunlisted, -⟩ := faults_end_run scripted Rehearsal.threefold.plan barredWorld
    obtain ⟨s, hleads, hs⟩ := scripted.leads_of_reach (n := 7)
      (s := .fresh Rehearsal.threefold.plan barredWorld)
      (p := fun s => s.events.countP Event.isStart == 2 && scripted.unlisted s) (by decide +kernel)
    rw [Bool.and_eq_true, beq_iff_eq] at hs
    obtain ⟨index, exit, fault, store, hactivity, hread⟩ := Setup.exists_of_unlisted hs.2
    obtain ⟨-, final, hfails, hworld⟩ := hunlisted _ _ _ _ _ hleads hactivity hread
    have hfaulted : Faulted scripted 2 final := hs.1 ▸ hfails.faulted
    exact ⟨s, fault, _, _, final, hleads, hfails, hworld fun _ _ => rfl, hfaulted,
      hfaulted.history⟩

end RunSweep
