import RunSweep.Proofs.Loop.ExitBlindness
import RunSweep.Proofs.Loop.Faults

/-!
# The trace tells of the calls

The events of a loop are its own notes. Here they are held against what it asks of others. `Tells` says
what an event stands for: a start of the program and the course that the launcher gave it, a look at which
that course had ended, a request that was read, or a sweep with the answer of the sweeper and the store
that it left. In a run every event stands for such a step, and every step of these kinds has its event.

A launcher may keep notes as well. `Launcher.logging` writes down the commands that it is given, and after
a run its log has the starts that the events tell of.
-/

namespace RunSweep

variable {σ β : Type}

/-! ## What an event stands for -/

/-- **A step from `s` to `t` does what an event tells.** -/
inductive Tells (setup : Setup σ β) (s t : Session σ β) : Event → Prop where
  /-- The launcher is called, and the program takes the course that it answers. -/
  | invoked {index : UInt64} : s.activity = .start →
      t.activity = .await index
        (setup.launcher.launch setup.command s.world.store s.world.launcher) →
        Tells setup s t (.invoked index setup.command)
  /-- The program has ended, and leaves what its last stage leaves. -/
  | returned {index : UInt64} {course : Attempt σ β} {stage : Stage σ β}
      {result : Except RunError ExitReport} : s.activity = .await index course →
      course.poll = (stage, .ended result) → t.world.store = stage.store →
        t.world.launcher = stage.launcher → Tells setup s t (.returned index result)
  /-- A request is read while the program is pending. -/
  | abandoned {index : UInt64} {rest : Attempt σ β} : s.activity = .listen index rest →
      0 < s.world.waiting → Tells setup s t (.abandoned index)
  /-- The sweeper is called, and the store is as it leaves it. -/
  | swept {index : UInt64} {exit : Option ExitReport} {result : Except Fault Report} :
      s.activity = .sweep index exit →
      setup.sweeper.sweep setup.fileSystem s.world.store = (result, t.world.store) →
        Tells setup s t (.swept index result)

/-- The next step of a session adds an event, and does what it tells. -/
structure Told (setup : Setup σ β) (s : Session σ β) (event : Event) : Prop where
  events : (setup.step s).session.events = s.events ++ [event]
  tells : Tells setup s (setup.step s).session event

/-- **What a step does to the trace**: nothing, if it calls neither the launcher nor the sweeper, or it
adds what it does. -/
inductive Trail (setup : Setup σ β) (s t : Session σ β) : Prop where
  | silent : t.events = s.events → s.activity ≠ .start →
      (∀ index exit, s.activity ≠ .sweep index exit) → Trail setup s t
  | tells {event : Event} : t.events = s.events ++ [event] → Tells setup s t event → Trail setup s t

namespace World

variable {w : World σ β}

/-- What arrives from outside leaves the store and the launcher alone. -/
theorem store_moment (w : World σ β) :
    w.moment.store = w.store ∧ w.moment.launcher = w.launcher := by
  unfold moment
  split <;> exact ⟨rfl, rfl⟩

theorem launcher_of_receive {found : Bool} {w' : World σ β} (h : w.receive = (found, w')) :
    w'.launcher = w.launcher := by
  unfold receive at h
  split_ifs at h <;> cases h <;> rfl

theorem waiting_of_receive {w' : World σ β} (h : w.receive = (true, w')) : 0 < w.waiting := by
  unfold receive at h
  split_ifs at h with hnone
  · cases h
  · exact Nat.pos_of_ne_zero hnone

end World

namespace Trail

variable {setup : Setup σ β} {plan : Plan} {rounds : List Round} {s t : Session σ β}

/-- The moment after a step is not told of, and changes nothing that is. -/
theorem moment (h : Trail setup s t) : Trail setup s t.moment := by
  obtain ⟨hstore, hlauncher⟩ := t.world.store_moment
  cases h with
  | silent hevents hstart hsweep => exact .silent hevents hstart hsweep
  | tells hevents htells =>
      refine .tells hevents ?_
      cases htells with
      | invoked hstart hawait => exact .invoked hstart hawait
      | returned hawait hpoll hleft hstate =>
          exact .returned hawait hpoll (hstore.trans hleft) (hlauncher.trans hstate)
      | abandoned hlisten hwaiting => exact .abandoned hlisten hwaiting
      | @swept index exit result hactivity hsweep =>
          exact .swept hactivity (hsweep.trans (congrArg (result, ·) hstore.symm))

/-- What is done next is told, one kind of activity at a time. -/
theorem of_act (h : Ledger setup plan rounds s) (hrunning : s.progress.phase = .running) :
    Trail setup s (setup.act s).session := by
  unfold Setup.act
  cases hactivity : s.activity with
  | check =>
      have hevents : s.check.session.events = s.events := by
        unfold Session.check
        rcases s.world.receive with ⟨_ | _, world⟩ <;> rfl
      exact .silent hevents (by simp [hactivity]) (by simp [hactivity])
  | start =>
      have hidle : s.progress.underWay = false := h.underWay.trans (hactivity ▸ rfl)
      dsimp only
      rw [Setup.start_of_idle hrunning hidle]
      exact .tells rfl (.invoked hactivity rfl)
  | await index course =>
      dsimp only
      rcases Session.poll_cases s.progress.plan course with
        ⟨stage, rest, hpoll⟩ | ⟨stage, result, hpoll, htolerates⟩ | ⟨stage, e, hpoll, hfatal⟩
      · rw [Session.await_of_pending hpoll]
        exact .silent rfl (by simp [hactivity]) (by simp [hactivity])
      · rw [Session.await_of_tolerated hpoll htolerates]
        exact .tells rfl (.returned hactivity hpoll rfl rfl)
      · rw [Session.await_of_fatal hpoll hfatal]
        exact .tells rfl (.returned hactivity hpoll rfl rfl)
  | listen index rest =>
      dsimp only [Session.listen]
      rcases hreceive : s.world.receive with ⟨_ | _, world⟩
      · exact .silent rfl (by simp [hactivity]) (by simp [hactivity])
      · exact .tells rfl (.abandoned hactivity (World.waiting_of_receive hreceive))
  | sweep index exit =>
      have hbusy : s.progress.underWay = true := h.underWay.trans (hactivity ▸ rfl)
      dsimp only
      rcases setup.sweep_cases s with ⟨report, store, hsweep⟩ | ⟨fault, store, hsweep⟩
      · rw [Setup.sweep_of_listed hrunning hbusy hsweep]
        exact .tells rfl (.swept hactivity hsweep)
      · rw [Setup.sweep_of_unlisted hsweep]
        exact .tells rfl (.swept hactivity hsweep)

/-- **Every step of a session with an account is told.** -/
theorem of_step (h : Ledger setup plan rounds s) : Trail setup s (setup.step s).session := by
  rcases hphase : s.progress.phase with _ | _
  · have hact := of_act h hphase
    cases hnext : setup.act s with
    | next t =>
        rw [hnext] at hact
        rw [Setup.step_of_act_next hphase hnext]
        exact hact.moment
    | done result t =>
        rw [hnext] at hact
        rw [Setup.step_of_act_done hphase hnext]
        exact hact
  -- a loop that has stopped does nothing
  · have hactivity := h.activity_of_stopped hphase
    rw [Setup.step_of_stopped hphase]
    exact .silent rfl (by simp [hactivity]) (by simp [hactivity])

end Trail

/-! ## The trace of a run -/

namespace Setup

variable {setup : Setup σ β} {plan : Plan} {world : World σ β} {s t final : Session σ β}
  {result : Except RunError Summary}

/-- A run that ends does so in the next step, or behind it. -/
theorem ends_cases (h : setup.Ends s result final) :
    setup.step s = .done result final ∨ ∃ t, setup.step s = .next t ∧ setup.Ends t result final := by
  obtain ⟨fuel, h⟩ := h
  cases fuel with
  | zero => cases h
  | succ fuel =>
      rw [go] at h
      split at h
      · rename_i t hstep
        exact .inr ⟨t, hstep, fuel, h⟩
      · rename_i result' final' hstep
        cases h
        exact .inl hstep

/-- A run that ends goes on to its end from every session on its way. -/
theorem ends_behind (h : setup.Leads s t) (hends : setup.Ends s result final) :
    setup.Ends t result final := by
  induction h using Relation.ReflTransGen.head_induction_on with
  | refl => exact hends
  | head hstep _ ih =>
      rcases ends_cases hends with hdone | ⟨u, hnext, hends⟩
      · cases hstep.symm.trans hdone
      · cases hstep.symm.trans hnext
        exact ih hends

theorem trail_of_leads (h : setup.Leads (.fresh plan world) s) :
    Trail setup s (setup.step s).session := by
  obtain ⟨rounds, hledger⟩ := exists_ledger h
  exact .of_step hledger

/-- **No event is taken back.** -/
theorem events_prefix (h : setup.Leads (.fresh plan world) s)
    (hends : setup.Ends s result final) : s.events <+: final.events := by
  refine ends_preserves (motive := fun t => s.events <+: t.events) List.prefix_rfl ?_ hends
  intro t hleads ht
  cases trail_of_leads (h.trans hleads) with
  | silent hevents => exact hevents ▸ ht
  | tells hevents => exact hevents ▸ ht.trans (List.prefix_append _ _)

/-- An event at some place of the trace was told by a step of the run, from a session with so many
events. -/
theorem exists_told (h : setup.Ends (.fresh plan world) result final) {i : ℕ} {event : Event}
    (hevent : final.events[i]? = some event) :
    ∃ u, setup.Leads (.fresh plan world) u ∧ u.events.length = i ∧ Told setup u event := by
  revert i event
  refine ends_preserves (motive := fun t => ∀ {i : ℕ} {event : Event}, t.events[i]? = some event →
    ∃ u, setup.Leads (.fresh plan world) u ∧ u.events.length = i ∧ Told setup u event) ?_ ?_ h
  · intro i event hnone
    cases hnone
  · intro t hleads ht i event hevent
    cases trail_of_leads hleads with
    | silent hevents =>
        rw [hevents] at hevent
        exact ht hevent
    | @tells told hevents htells =>
        rw [hevents, List.getElem?_append] at hevent
        split_ifs at hevent with hbefore
        · exact ht hevent
        -- it is the event that this step adds
        · rw [List.getElem?_singleton] at hevent
          split_ifs at hevent with hzero
          obtain rfl := Option.some.inj hevent
          exact ⟨t, hleads, by omega, hevents, htells⟩

/-- What a step of the run tells stands in the trace behind the events before it. -/
theorem getElem?_of_told (h : setup.Ends (.fresh plan world) result final)
    (hleads : setup.Leads (.fresh plan world) s) {event : Event} (htold : Told setup s event) :
    final.events[s.events.length]? = some event := by
  have hprefix : (setup.step s).session.events <+: final.events := by
    rcases ends_cases (ends_behind hleads h) with hdone | ⟨t, hnext, hends⟩
    · rw [hdone]
      exact List.prefix_rfl
    · rw [hnext]
      exact events_prefix (hleads.tail hnext) hends
  obtain ⟨later, hlater⟩ := hprefix
  rw [← hlater, htold.events, List.append_assoc, List.getElem?_append_right (Nat.le_refl _),
    Nat.sub_self]
  rfl

/-- **The trace of a run tells what it did.** An event stands at a place of the trace if and only if a
step of the run, from a session with so many events, did what the event tells. And every session that is
about to start the program, or to sweep, has its call told by the next step. -/
theorem trace_tells_calls (h : setup.Ends (.fresh plan world) result final) :
    (∀ i event, final.events[i]? = some event ↔
        ∃ u, setup.Leads (.fresh plan world) u ∧ u.events.length = i ∧ Told setup u event) ∧
      ∀ u, setup.Leads (.fresh plan world) u →
        (u.activity = .start → ∃ index, Told setup u (.invoked index setup.command)) ∧
          ∀ index exit, u.activity = .sweep index exit →
            ∃ result, Told setup u (.swept index result) := by
  refine ⟨fun i event => ⟨exists_told h, ?_⟩, fun u hleads => ⟨?_, ?_⟩⟩
  · rintro ⟨u, hleads, rfl, htold⟩
    exact getElem?_of_told h hleads htold
  · intro hstart
    cases trail_of_leads hleads with
    | silent _ hnot => exact absurd hstart hnot
    | tells hevents htells =>
        have htold : Told setup u _ := ⟨hevents, htells⟩
        cases htells with
        | invoked => exact ⟨_, htold⟩
        | returned hactivity | abandoned hactivity | swept hactivity =>
            exact absurd (hstart.symm.trans hactivity) (by simp)
  · intro index exit hsweep
    cases trail_of_leads hleads with
    | silent _ _ hnot => exact absurd hsweep (hnot index exit)
    | tells hevents htells =>
        have htold : Told setup u _ := ⟨hevents, htells⟩
        cases htells with
        | swept hactivity =>
            rw [hsweep] at hactivity
            cases hactivity
            exact ⟨_, htold⟩
        | invoked hactivity | returned hactivity | abandoned hactivity =>
            exact absurd (hsweep.symm.trans hactivity) (by simp)

end Setup

/-! ## A launcher that keeps a log -/

/-- A stage whose launcher has a log as well. -/
def Stage.logged (log : List Command) (stage : Stage σ β) : Stage σ (β × List Command) :=
  { store := stage.store, launcher := (stage.launcher, log), requests := stage.requests }

/-- The same course, at every stage of which the launcher has a log. -/
def Attempt.logged (log : List Command) : Attempt σ β → Attempt σ (β × List Command)
  | ended stage result => .ended (stage.logged log) result
  | pending stage rest => .pending (stage.logged log) (rest.logged log)
  | endless stages => .endless fun n => (stages n).logged log

/-- **The launcher that writes down what it is given**, and else does the same. -/
def Launcher.logging (l : Launcher σ β) : Launcher σ (β × List Command) where
  launch command store state := (l.launch command store state.1).logged (state.2 ++ [command])

/-- The same loop, over the launcher that keeps a log. -/
def Setup.logging (setup : Setup σ β) : Setup σ (β × List Command) :=
  { setup with launcher := setup.launcher.logging }

/-- The same world, in which nothing is written down yet. -/
def World.logging (w : World σ β) : World σ (β × List Command) :=
  { w with launcher := (w.launcher, []) }

/-- The command of a start. -/
def Event.command? : Event → Option Command
  | invoked _ command => some command
  | returned .. | abandoned _ | swept .. => none

/-- The commands of the starts that are told of. -/
def commands (events : List Event) : List Command :=
  events.filterMap Event.command?

theorem commands_append_started (events : List Event) (index : UInt64) (command : Command) :
    commands (events ++ [.invoked index command]) = commands events ++ [command] :=
  List.filterMap_append

theorem commands_append_other (events : List Event) {event : Event} (h : event.command? = none) :
    commands (events ++ [event]) = commands events := by
  rw [commands, List.filterMap_append, List.filterMap_cons_none h, List.filterMap_nil, List.append_nil]
  rfl

/-- **What the log has**: what is told of, unless the program has been started and not been looked at; then
the course that it takes has it. -/
inductive Logs (log : List Command) : Activity σ (β × List Command) → List Command → Prop where
  | check : Logs log .check log
  | start : Logs log .start log
  | await (index : UInt64) (course : Attempt σ β) (told : List Command) :
      Logs log (.await index (course.logged told)) told
  | listen (index : UInt64) (rest : Attempt σ β) :
      Logs log (.listen index (rest.logged log)) log
  | sweep (index : UInt64) (exit : Option ExitReport) : Logs log (.sweep index exit) log

/-- The log of a session has the starts that its events tell of. -/
def Session.Logged (s : Session σ (β × List Command)) : Prop :=
  Logs s.world.launcher.2 s.activity (commands s.events)

namespace Session.Logged

variable {setup : Setup σ β} {s : Session σ (β × List Command)}

theorem fresh (plan : Plan) (world : World σ β) : (Session.fresh plan world.logging).Logged :=
  Logs.check

/-- Nothing more is to be written down if the log has it all. -/
theorem of_log_eq (hlog : s.world.launcher.2 = commands s.events)
    (h : Logs (commands s.events) s.activity (commands s.events)) : s.Logged := by
  unfold Logged
  rw [hlog]
  exact h

/-- Going on from the end of the program adds nothing to the log. -/
theorem of_resume (hlog : s.world.launcher.2 = commands s.events) (index : UInt64)
    (result : Except RunError ExitReport) : (s.resume index result).session.Logged := by
  unfold Session.resume
  split
  · exact of_log_eq hlog (.sweep ..)
  · split_ifs
    · exact of_log_eq hlog (.sweep ..)
    · exact of_log_eq hlog .check

variable (h : s.Logged)

include h

theorem moment : s.moment.Logged := by
  show Logs s.world.moment.launcher.2 s.activity (commands s.events)
  rw [s.world.store_moment.2]
  exact h

/-- Unless the program is looked at next, everything is written down. -/
theorem log_eq (hactivity : ∀ index course, s.activity ≠ .await index course) :
    s.world.launcher.2 = commands s.events := by
  unfold Logged at h
  generalize s.world.launcher.2 = log at h ⊢
  generalize s.activity = activity at h hactivity
  generalize commands s.events = told at h ⊢
  cases h with
  | await index course => exact absurd rfl (hactivity _ _)
  | _ => rfl

/-! ### The parts of a step -/

theorem check (hactivity : s.activity = .check) : s.check.session.Logged := by
  have hlog := h.log_eq (by simp [hactivity])
  unfold Session.check
  rcases hreceive : s.world.receive with ⟨_ | _, world⟩
  · exact of_log_eq ((congrArg Prod.snd (World.launcher_of_receive hreceive)).trans hlog) .start
  · exact of_log_eq ((congrArg Prod.snd (World.launcher_of_receive hreceive)).trans hlog) .check

/-- The start that is told of is written down by the launcher. -/
theorem start (hactivity : s.activity = .start) : (setup.logging.start s).session.Logged := by
  have hlog := h.log_eq (by simp [hactivity])
  unfold Setup.start
  rcases s.progress.begin with e | ⟨index, progress⟩
  · exact of_log_eq hlog .check
  · show Logs s.world.launcher.2 (.await index (Attempt.logged (s.world.launcher.2 ++ [setup.command]) _))
      (commands (s.events ++ [.invoked index setup.command]))
    rw [commands_append_started, ← hlog]
    exact .await ..

theorem await {index : UInt64} {course : Attempt σ (β × List Command)}
    (hactivity : s.activity = .await index course) : (s.await index course).session.Logged := by
  unfold Logged at h
  rw [hactivity] at h
  generalize htold : commands s.events = told at h
  cases h with
  | await _ course =>
      cases course with
      | ended stage result =>
          exact of_resume (htold.symm.trans (commands_append_other _ rfl).symm) index result
      | pending stage rest =>
          show Logs told (.listen index (rest.logged told)) (commands s.events)
          exact htold ▸ .listen ..
      | endless stages =>
          show Logs told (.listen index (Attempt.logged told (.endless fun n => stages (n + 1))))
            (commands s.events)
          exact htold ▸ .listen ..

theorem listen {index : UInt64} {rest : Attempt σ (β × List Command)}
    (hactivity : s.activity = .listen index rest) : (s.listen index rest).session.Logged := by
  have hlog := h.log_eq (by simp [hactivity])
  unfold Logged at h
  rw [hactivity] at h
  unfold Session.listen
  rcases hreceive : s.world.receive with ⟨_ | _, world⟩
  · show Logs world.launcher.2 (.await index rest) (commands s.events)
    generalize htold : commands s.events = told at h
    cases h
    exact .await ..
  · exact of_log_eq ((congrArg Prod.snd (World.launcher_of_receive hreceive)).trans
      (hlog.trans (commands_append_other _ rfl).symm)) .check

theorem sweep {index : UInt64} {exit : Option ExitReport}
    (hactivity : s.activity = .sweep index exit) :
    (setup.logging.sweep s index exit).session.Logged := by
  have hlog := h.log_eq (by simp [hactivity])
  have hchecks (result : Except Fault Report) :
      Logs s.world.launcher.2 (.check : Activity σ (β × List Command))
        (commands (s.events ++ [.swept index result])) := by
    rw [commands_append_other _ rfl, ← hlog]
    exact .check
  rcases setup.logging.sweep_cases s with ⟨report, store, hsweep⟩ | ⟨fault, store, hsweep⟩
  · rw [Setup.sweep_of_report hsweep]
    split <;> exact hchecks _
  · rw [Setup.sweep_of_unlisted hsweep]
    exact hchecks _

/-- **Every step keeps the log**, the last one as well. -/
theorem step : (setup.logging.step s).session.Logged :=
  Setup.step_preserves (motive := Logged) h (fun _ ht => ht.moment) fun _ => by
    unfold Setup.act
    cases hactivity : s.activity with
    | check => exact h.check hactivity
    | start => exact h.start hactivity
    | await index course => exact h.await hactivity
    | listen index rest => exact h.listen hactivity
    | sweep index exit => exact h.sweep hactivity

end Session.Logged

/-! ## The log of a run -/

/-- A course does the same with a log. -/
theorem Attempt.logged_alike (plan : Plan) (log : List Command) (course : Attempt σ β) :
    course.Alike plan (fun state state' => state'.1 = state) (course.logged log) := by
  induction course with
  | ended stage result => exact .ended ⟨rfl, rfl, rfl⟩ (.refl plan result)
  | pending stage rest ih => exact .pending ⟨rfl, rfl, rfl⟩ ih
  | endless stages => exact .endless fun n => ⟨rfl, rfl, rfl⟩

/-- The starts that are told of do not depend on how programs end. -/
theorem commands_eq {plan : Plan} {events events' : List Event}
    (h : List.Forall₂ (Event.SameButExit plan) events events') : commands events = commands events' := by
  induction h with
  | nil => rfl
  | cons hevent _ ih =>
      unfold commands at ih ⊢
      cases hevent with
      | same event => rw [List.filterMap_cons, List.filterMap_cons, ih]
      | returned => exact ih

/-- **The log of the launcher is what the trace says.** Give a loop the launcher that writes down the
commands that it is given. It runs to the same end, with the same store and the launcher in the same state,
and what the launcher has written down are the starts that the events of the first run tell of. -/
theorem launcher_logs_starts {setup : Setup σ β} {plan : Plan} {world : World σ β} {fuel : ℕ}
    {result : Except RunError Summary} {final : Session σ β}
    (h : setup.run fuel (.fresh plan world) = some (result, final)) :
    ∃ final', setup.logging.run fuel (.fresh plan world.logging) = some (result, final') ∧
      final'.world.store = final.world.store ∧
        final'.world.launcher = (final.world.launcher, commands final.events) := by
  have hsetups : setup.Alike plan (fun state state' => state'.1 = state) setup.logging := by
    refine ⟨rfl, rfl, rfl, rfl, ?_⟩
    rintro store state ⟨_, log⟩ rfl
    exact Attempt.logged_alike plan _ _
  have hfresh : (Session.fresh plan world).Alike plan (fun state state' => state'.1 = state)
      (.fresh plan world.logging) :=
    { progress := rfl, store := rfl, totals := rfl, history := .nil, events := .nil, plan_eq := rfl
      world := ⟨rfl, rfl, rfl, rfl⟩, activity := .check }
  have hruns := hsetups.go hfresh fuel
  rw [← Setup.run_fresh, h] at hruns
  generalize hrun : setup.logging.go fuel (.fresh plan world.logging) = run at hruns
  cases hruns with
  | @some _ ended hended =>
      obtain ⟨result', final'⟩ := ended
      obtain ⟨rfl, halike⟩ := hended
      have hends : setup.logging.Ends (.fresh plan world.logging) result final' := ⟨fuel, hrun⟩
      have hlogged : final'.Logged :=
        Setup.ends_preserves (motive := Session.Logged) (.fresh plan world) (fun _ _ ht => ht.step) hends
      obtain ⟨⟨rounds, hledger⟩, hstopped, -⟩ := Setup.exists_ledger_of_ends hends
      have hlog := hlogged.log_eq (by simp [hledger.activity_of_stopped hstopped])
      refine ⟨final', hrun, halike.store.symm, Prod.ext halike.world.launcher ?_⟩
      rw [hlog, commands_eq halike.events]

end RunSweep
