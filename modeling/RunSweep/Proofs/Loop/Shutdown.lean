import RunSweep.Proofs.Loop.Accounts

/-!
# Requests to shut down

Once a request waits in the channel it stays there until it is read, and it is read at the next look:
before the next iteration, or while the program is pending. So little is left to happen, and `Aftermath`
says what, by what is found of the program that is running or about to be started.
-/

namespace RunSweep

variable {σ β : Type}

/-- Whether an event is a start of the program. -/
def Event.isStart : Event → Bool
  | invoked .. => true
  | _ => false

/-- Whether an event is a sweep. -/
def Event.isSweep : Event → Bool
  | swept .. => true
  | _ => false

/-- What a loop finds of the program. -/
inductive Finding where
  /-- It does not run. -/
  | idle
  | unfinished
  /-- It has ended in a way that ends the loop. -/
  | fatal (e : RunError)
  /-- It has ended in a way after which the loop sweeps. -/
  | tolerated

/-- What a look at the program finds. -/
def Plan.finding (plan : Plan) (course : Attempt σ β) : Finding :=
  match course.poll.2 with
  | .pending _ => .unfinished
  | .ended (.ok _) => .tolerated
  | .ended (.error e) => if plan.tolerates (.error e) then .tolerated else .fatal e

/-- **What a session finds of the program** that it has started or starts next. -/
def Setup.finding (setup : Setup σ β) (s : Session σ β) : Finding :=
  match s.activity with
  | .check => .idle
  | .start =>
      s.progress.plan.finding
        (setup.launcher.launch setup.command s.world.store s.world.launcher)
  | .await _ course => s.progress.plan.finding course
  | .listen .. => .unfinished
  | .sweep .. => .tolerated

/-- **What follows once a request waits**: the events that are still to come, and how the run ends and
with how many complete iterations. -/
structure Aftermath (setup : Setup σ β) (s : Session σ β) (later : List Event)
    (result : Except RunError Summary) (completed : UInt64) : Prop where
  starts : later.countP Event.isStart ≤ 1
  sweeps : later.countP Event.isSweep ≤ 1
  /-- The request is read before anything else is done. -/
  checked : s.activity = .check → later = [] ∧ completed = s.progress.completed
  /-- The program is abandoned, not swept after and not counted. -/
  unfinished : setup.finding s = .unfinished →
    .abandoned (s.progress.completed + 1) ∈ later ∧ later.countP Event.isSweep = 0 ∧
      completed = s.progress.completed
  /-- A program that has ended is swept after, and counts unless the listing fails. -/
  tolerated : setup.finding s = .tolerated →
    (∃ report, .swept (s.progress.completed + 1) (.ok report) ∈ later ∧
        completed = s.progress.completed + 1) ∨
      ∃ fault, .swept (s.progress.completed + 1) (.error fault) ∈ later ∧
        completed = s.progress.completed
  /-- A program that ends the loop is not swept after. -/
  fatal : ∀ e, setup.finding s = .fatal e →
    result = .error e ∧ later.countP Event.isSweep = 0 ∧ completed = s.progress.completed
  /-- The run ends at the request, unless the limit is reached or an error is met with in this very
  iteration. -/
  ends :
    (∃ totals, result = .ok { iterations := completed, stopReason := .shutdownRequested, totals }) ∨
      (∃ totals, result = .ok { iterations := completed, stopReason := .iterationLimit, totals } ∧
          completed = s.progress.completed + 1 ∧
            ∃ limit, s.progress.plan.limit = some limit ∧ limit ≤ completed) ∨
        ∃ e, result = .error e ∧ completed = s.progress.completed ∧
          (setup.finding s = .fatal e ∨
            ∃ fault, e = .listDir setup.sweeper.workingDir fault ∧
              .swept (s.progress.completed + 1) (.error fault) ∈ later)

namespace Setup

variable {setup : Setup σ β} {s t : Session σ β}

/-- A run from a session ends with a result, after some more events and with so many iterations. -/
def Concludes (setup : Setup σ β) (s : Session σ β) (later : List Event)
    (result : Except RunError Summary) (completed : UInt64) : Prop :=
  ∃ final, setup.Ends s result final ∧ final.events = s.events ++ later ∧
    final.progress.completed = completed

/-- What is left after a step is left before it, behind what the step adds. -/
theorem Concludes.of_next {first later : List Event} {result : Except RunError Summary}
    {completed : UInt64} (hstep : setup.step s = .next t) (hfirst : t.events = s.events ++ first)
    (h : setup.Concludes t later result completed) :
    setup.Concludes s (first ++ later) result completed := by
  obtain ⟨final, hends, hevents, hcompleted⟩ := h
  refine ⟨final, ends_of_next hstep hends, ?_, hcompleted⟩
  rw [hevents, hfirst, List.append_assoc]

/-- A loop that has stopped does nothing more. -/
theorem concludes_of_stopped (setup : Setup σ β) (h : s.progress.phase = .stopped) :
    setup.Concludes s [] (.ok s.summary) s.progress.completed :=
  ⟨s, ends_of_done (step_of_stopped h), (List.append_nil _).symm, rfl⟩

/-- The end of a run at a request. -/
def shutdown (s : Session σ β) : Except RunError Summary :=
  .ok
    { iterations := s.progress.completed
      stopReason := .shutdownRequested
      totals := s.totals }

section Waiting

variable (setup) (hrunning : s.progress.phase = .running) (hreason : s.progress.stopReason = none)

include hrunning hreason

/-- Stopping at a request. -/
theorem concludes_of_stop {first : List Event} (hact : setup.act s = .next (t.stop .shutdownRequested))
    (hprogress : t.progress = s.progress) (htotals : t.totals = s.totals)
    (hevents : t.events = s.events ++ first) :
    setup.Concludes s first (shutdown s) s.progress.completed := by
  have hsummary : (t.stop .shutdownRequested).moment.summary =
      { iterations := s.progress.completed
        stopReason := .shutdownRequested
        totals := s.totals } := by
    show Summary.mk t.progress.completed
      ((t.progress.stop .shutdownRequested).stopReason.getD .iterationLimit) t.totals = _
    rw [hprogress, Progress.stopReason_stop hreason, htotals]
    rfl
  have hend := setup.concludes_of_stopped (s := (t.stop .shutdownRequested).moment) rfl
  rw [hsummary] at hend
  have hcompleted : (t.stop .shutdownRequested).moment.progress.completed =
      s.progress.completed := by
    show t.progress.completed = _
    rw [hprogress]
  rw [hcompleted] at hend
  exact List.append_nil first ▸ hend.of_next (step_of_act_next hrunning hact) hevents

variable (hwaiting : 0 < s.world.waiting)

include hwaiting

/-- A request that is there before an iteration is begun ends the run at once. -/
theorem concludes_of_check (hactivity : s.activity = .check) :
    setup.Concludes s [] (shutdown s) s.progress.completed := by
  refine setup.concludes_of_stop hrunning hreason (t := { s with world := s.world.taken }) ?_ rfl rfl
    (List.append_nil _).symm
  rw [act, hactivity]
  exact Session.check_of_waiting hwaiting

/-- A request that is there while the program is pending abandons it. -/
theorem concludes_of_listen {index : UInt64} {rest : Attempt σ β}
    (hactivity : s.activity = .listen index rest) :
    setup.Concludes s [.abandoned index] (shutdown s) s.progress.completed := by
  refine setup.concludes_of_stop hrunning hreason
    (t := { s with world := s.world.taken }.record (.abandoned index)) ?_ rfl rfl rfl
  rw [act, hactivity]
  exact Session.listen_of_waiting hwaiting rest

/-- Once a sweep is due, it is the last. -/
theorem concludes_of_sweep {index : UInt64} {exit : Option ExitReport}
    (hbusy : s.progress.underWay = true) (hactivity : s.activity = .sweep index exit) :
    (∃ fault, setup.Concludes s [.swept index (.error fault)]
        (.error (.listDir setup.sweeper.workingDir fault)) s.progress.completed) ∨
      ∃ report reason totals, setup.Concludes s [.swept index (.ok report)]
          (.ok { iterations := s.progress.completed + 1, stopReason := reason, totals })
          (s.progress.completed + 1) ∧
        (reason = .shutdownRequested ∨
          reason = .iterationLimit ∧
            ∃ limit, s.progress.plan.limit = some limit ∧ limit ≤ s.progress.completed + 1) := by
  have hact : setup.act s = setup.sweep s index exit := by rw [act, hactivity]
  rcases setup.sweep_cases s with ⟨report, store, hsweep⟩ | ⟨fault, store, hsweep⟩
  · right
    rw [sweep_of_listed hrunning hbusy hsweep] at hact
    obtain ⟨-, hcompleted, -, hstopped⟩ := Progress.finished_cases hrunning hreason
    obtain ⟨t, hstep, hprogress, htotals, hcheck, hstill, hevents⟩ :
        ∃ t, setup.step s = .next t ∧ t.progress = s.progress.finished ∧
          t.totals = s.totals.add report ∧ t.activity = .check ∧ 0 < t.world.waiting ∧
            t.events = s.events ++ [.swept index (.ok report)] :=
      ⟨_, step_of_act_next hrunning hact, rfl, rfl, rfl, World.waiting_moment hwaiting, rfl⟩
    rw [← hprogress] at hcompleted hstopped
    rcases hstopped with ⟨hlimit, hphase, hreason'⟩ | ⟨-, hphase, hreason'⟩
    -- the limit is reached by this very iteration
    · have hend := setup.concludes_of_stopped hphase
      rw [Session.summary, hreason', hcompleted] at hend
      exact ⟨report, .iterationLimit, t.totals, hend.of_next hstep hevents, .inr ⟨rfl, hlimit⟩⟩
    -- the request is read before another iteration is begun
    · have hend := setup.concludes_of_check hphase hreason' hstill hcheck
      rw [shutdown, hcompleted] at hend
      exact ⟨report, .shutdownRequested, t.totals, hend.of_next hstep hevents, .inl rfl⟩
  · left
    rw [sweep_of_unlisted hsweep] at hact
    exact ⟨fault, _, ends_of_done (step_of_act_done hrunning hact), rfl, rfl⟩

end Waiting

/-! ## What follows, from the last part of an iteration to the first -/

/-- What is left to a session comes to its end, with so many starts of the program. -/
def Settles (setup : Setup σ β) (s : Session σ β) (starts : Nat) : Prop :=
  ∃ later result completed, setup.Concludes s later result completed ∧
    Aftermath setup s later result completed ∧ later.countP Event.isStart = starts

/-- A step within an iteration passes on what is left. -/
theorem Settles.of_next (first : List Event) (starts : Nat) (h : setup.Settles t starts)
    (hstep : setup.step s = .next t) (hevents : t.events = s.events ++ first)
    (hplan : t.progress.plan = s.progress.plan)
    (hcompleted : t.progress.completed = s.progress.completed)
    (hfinding : setup.finding t = setup.finding s) (hcheck : s.activity ≠ .check)
    (hstarts : first.countP Event.isStart + starts ≤ 1)
    (hsweeps : first.countP Event.isSweep = 0) :
    setup.Settles s (first.countP Event.isStart + starts) := by
  obtain ⟨later, result, completed, hend, h, hcount⟩ := h
  have hstarts' : (first ++ later).countP Event.isStart = first.countP Event.isStart + starts := by
    rw [List.countP_append, hcount]
  have hsweeps' : (first ++ later).countP Event.isSweep = later.countP Event.isSweep := by
    rw [List.countP_append, hsweeps, Nat.zero_add]
  refine ⟨first ++ later, result, completed, hend.of_next hstep hevents, ?_, hstarts'⟩
  constructor
  case starts => exact hstarts'.symm ▸ hstarts
  case sweeps => exact hsweeps'.symm ▸ h.sweeps
  case checked => exact fun hactivity => absurd hactivity hcheck
  case unfinished =>
    intro hunfinished
    obtain ⟨habandoned, hnone, huncounted⟩ := h.unfinished (hfinding.trans hunfinished)
    rw [hcompleted] at habandoned huncounted
    exact ⟨List.mem_append_right _ habandoned, hsweeps'.trans hnone, huncounted⟩
  case tolerated =>
    intro htolerated
    have hswept := h.tolerated (hfinding.trans htolerated)
    rw [hcompleted] at hswept
    rcases hswept with ⟨report, hswept, hcounted⟩ | ⟨fault, hswept, huncounted⟩
    · exact .inl ⟨report, List.mem_append_right _ hswept, hcounted⟩
    · exact .inr ⟨fault, List.mem_append_right _ hswept, huncounted⟩
  case fatal =>
    intro e hfatal
    obtain ⟨hresult, hnone, huncounted⟩ := h.fatal e (hfinding.trans hfatal)
    exact ⟨hresult, hsweeps'.trans hnone, huncounted.trans hcompleted⟩
  case ends =>
    have hends := h.ends
    rw [hcompleted, hplan, hfinding] at hends
    rcases hends with hshut | hlimit | ⟨e, hresult, huncounted, hfatal | ⟨fault, he, hswept⟩⟩
    · exact .inl hshut
    · exact .inr (.inl hlimit)
    · exact .inr (.inr ⟨e, hresult, huncounted, .inl hfatal⟩)
    · exact .inr (.inr ⟨e, hresult, huncounted, .inr ⟨fault, he, List.mem_append_right _ hswept⟩⟩)

section Iteration

variable (hrunning : s.progress.phase = .running) (hreason : s.progress.stopReason = none)
  (hwaiting : 0 < s.world.waiting)

include hrunning hreason hwaiting

theorem settles_check (hactivity : s.activity = .check) : setup.Settles s 0 := by
  have hfinding : setup.finding s = .idle := by rw [finding, hactivity]
  refine ⟨[], _, _, setup.concludes_of_check hrunning hreason hwaiting hactivity, ?_, rfl⟩
  constructor
  case starts => exact Nat.zero_le 1
  case sweeps => exact Nat.zero_le 1
  case checked => exact fun _ => ⟨rfl, rfl⟩
  case ends => exact .inl ⟨_, rfl⟩
  all_goals simp [hfinding]

theorem settles_listen {rest : Attempt σ β}
    (hactivity : s.activity = .listen (s.progress.completed + 1) rest) : setup.Settles s 0 := by
  have hfinding : setup.finding s = .unfinished := by rw [finding, hactivity]
  refine ⟨_, _, _, setup.concludes_of_listen hrunning hreason hwaiting hactivity, ?_, rfl⟩
  constructor
  case starts => exact Nat.zero_le 1
  case sweeps => exact Nat.zero_le 1
  case unfinished => exact fun _ => ⟨List.mem_cons_self, rfl, rfl⟩
  case ends => exact .inl ⟨_, rfl⟩
  case checked => simp [hactivity]
  all_goals simp [hfinding]

theorem settles_sweep {exit : Option ExitReport} (hbusy : s.progress.underWay = true)
    (hactivity : s.activity = .sweep (s.progress.completed + 1) exit) : setup.Settles s 0 := by
  have hfinding : setup.finding s = .tolerated := by rw [finding, hactivity]
  rcases setup.concludes_of_sweep hrunning hreason hwaiting hbusy hactivity with
    ⟨fault, hend⟩ | ⟨report, reason, totals, hend, hreason'⟩
  -- the working directory cannot be listed
  · refine ⟨_, _, _, hend, ?_, rfl⟩
    constructor
    case starts => exact Nat.zero_le 1
    case sweeps => exact Nat.le_refl 1
    case tolerated => exact fun _ => .inr ⟨fault, List.mem_cons_self, rfl⟩
    case ends =>
      exact .inr (.inr ⟨_, rfl, rfl, .inr ⟨fault, rfl, List.mem_cons_self⟩⟩)
    case checked => simp [hactivity]
    all_goals simp [hfinding]
  -- the iteration is complete
  · refine ⟨_, _, _, hend, ?_, rfl⟩
    constructor
    case starts => exact Nat.zero_le 1
    case sweeps => exact Nat.le_refl 1
    case tolerated => exact fun _ => .inl ⟨report, List.mem_cons_self, rfl⟩
    case ends =>
      rcases hreason' with rfl | ⟨rfl, hlimit⟩
      · exact .inl ⟨totals, rfl⟩
      · exact .inr (.inl ⟨totals, rfl, rfl, hlimit⟩)
    case checked => simp [hactivity]
    all_goals simp [hfinding]

theorem settles_await {course : Attempt σ β} (hbusy : s.progress.underWay = true)
    (hactivity : s.activity = .await (s.progress.completed + 1) course) : setup.Settles s 0 := by
  have hact : setup.act s = s.await (s.progress.completed + 1) course := by rw [act, hactivity]
  have hcheck : s.activity ≠ .check := by simp [hactivity]
  have hfinding : setup.finding s = s.progress.plan.finding course := by rw [finding, hactivity]
  rcases Session.poll_cases s.progress.plan course with
    ⟨stage, rest, hpoll⟩ | ⟨stage, result, hpoll, htolerates⟩ | ⟨stage, e, hpoll, hfatal⟩
  -- the request is read now that the program is pending
  · have hunfinished : s.progress.plan.finding course = .unfinished := by
      rw [Plan.finding, hpoll]
    rw [Session.await_of_pending hpoll] at hact
    have hstep := step_of_act_next hrunning hact
    refine Settles.of_next [] 0 ?_ hstep (List.append_nil _).symm rfl rfl
      (hfinding.trans hunfinished).symm hcheck (Nat.zero_le 1) rfl
    exact settles_listen hrunning hreason
      (World.waiting_moment (World.waiting_after hwaiting stage)) rfl
  -- the program was looked at first, so it is swept after
  · have htolerated : s.progress.plan.finding course = .tolerated := by
      rw [Plan.finding, hpoll]
      cases result with
      | ok exit => rfl
      | error e => exact if_pos htolerates
    rw [Session.await_of_tolerated hpoll htolerates] at hact
    have hstep := step_of_act_next hrunning hact
    refine Settles.of_next [_] 0 ?_ hstep rfl rfl rfl (hfinding.trans htolerated).symm
      hcheck (Nat.zero_le 1) rfl
    exact settles_sweep hrunning hreason
      (World.waiting_moment (World.waiting_after hwaiting stage)) hbusy rfl
  -- the end of the program ends the loop
  · have hfatal' : setup.finding s = .fatal e := by
      rw [hfinding, Plan.finding, hpoll]
      exact if_neg hfatal
    rw [Session.await_of_fatal hpoll hfatal] at hact
    have hends := ends_of_done (step_of_act_done hrunning hact)
    refine ⟨[.returned (s.progress.completed + 1) (.error e)], _, s.progress.completed,
      ⟨_, hends, rfl, rfl⟩, ?_, rfl⟩
    constructor
    case starts => exact Nat.zero_le 1
    case sweeps => exact Nat.zero_le 1
    case fatal =>
      intro e' he'
      obtain rfl := Finding.fatal.inj (hfatal'.symm.trans he')
      exact ⟨rfl, rfl, rfl⟩
    case ends => exact .inr (.inr ⟨e, rfl, rfl, .inl hfatal'⟩)
    case checked => exact fun h => absurd h hcheck
    all_goals simp [hfatal']

theorem settles_start (hidle : s.progress.underWay = false) (hactivity : s.activity = .start) :
    setup.Settles s 1 := by
  have hact : setup.act s = setup.start s := by rw [act, hactivity]
  have hcheck : s.activity ≠ .check := by simp [hactivity]
  have hfinding : setup.finding s = s.progress.plan.finding
      (setup.launcher.launch setup.command s.world.store s.world.launcher) := by
    rw [finding, hactivity]
  rw [start_of_idle hrunning hidle] at hact
  have hstep := step_of_act_next hrunning hact
  refine Settles.of_next [_] 0 ?_ hstep rfl rfl rfl hfinding.symm hcheck (Nat.le_refl 1) rfl
  exact settles_await hrunning hreason (World.waiting_moment hwaiting) rfl rfl

end Iteration

end Setup

variable {setup : Setup σ β} {plan : Plan} {world : World σ β} {s : Session σ β}

/-- What is left to a session of a fresh run, once a request waits. -/
theorem Ledger.settles {rounds : List Round} (h : Ledger setup plan rounds s)
    (hrunning : s.progress.phase = .running) (hwaiting : 0 < s.world.waiting) :
    ∃ starts, setup.Settles s starts := by
  have hreason := h.stopReason_of_running hrunning
  -- the account tells which iteration is under way
  obtain ⟨rest, -, hrest⟩ := h.events
  rw [hreason, ← h.next_eq] at hrest
  cases hactivity : s.activity with
  | check => exact ⟨0, Setup.settles_check hrunning hreason hwaiting hactivity⟩
  | start =>
      have hidle : s.progress.underWay = false := h.underWay.trans (hactivity ▸ rfl)
      exact ⟨1, Setup.settles_start hrunning hreason hwaiting hidle hactivity⟩
  | await index course =>
      have hbusy : s.progress.underWay = true := h.underWay.trans (hactivity ▸ rfl)
      rw [hactivity] at hrest
      cases hrest
      exact ⟨0, Setup.settles_await hrunning hreason hwaiting hbusy hactivity⟩
  | listen index later =>
      rw [hactivity] at hrest
      cases hrest
      exact ⟨0, Setup.settles_listen hrunning hreason hwaiting hactivity⟩
  | sweep index exit =>
      have hbusy : s.progress.underWay = true := h.underWay.trans (hactivity ▸ rfl)
      rw [hactivity] at hrest
      cases hrest
      exact ⟨0, Setup.settles_sweep hrunning hreason hwaiting hbusy hactivity⟩

/-- **A request to shut down is neither lost nor late.** Take any session of a fresh run that has not
stopped, while a request waits. Then the run ends, and at most one more start of the program and at most
one more sweep are still to come, none if the request is there when it is looked for before an
iteration. A program that is unfinished when the request is read is abandoned, and one that has ended is
swept after as usual. -/
theorem shutdown_is_prompt (h : setup.Leads (.fresh plan world) s)
    (hrunning : s.progress.phase = .running) (hwaiting : 0 < s.world.waiting) :
    ∃ fuel result final later, setup.run fuel (.fresh plan world) = some (result, final) ∧
      final.events = s.events ++ later ∧
        Aftermath setup s later result final.progress.completed := by
  obtain ⟨rounds, hledger⟩ := Setup.exists_ledger h
  obtain ⟨starts, later, result, completed, ⟨final, hends, hevents, rfl⟩, haftermath, -⟩ :=
    hledger.settles hrunning hwaiting
  obtain ⟨fuel, hrun⟩ := Setup.ends_of_leads h hends
  exact ⟨fuel, result, final, later, (setup.run_fresh fuel plan world).trans hrun, hevents,
    haftermath⟩

/-- A loop over the two directories of a rehearsal, whose program writes nothing. -/
def calm : Setup Tree Nat where
  command := { program := .ofText "daq", args := [] }
  sweeper :=
    { workingDir := Rehearsal.workingDir, archiveDir := Rehearsal.archiveDir, threshold := 0 }
  fileSystem := Tree.fileSystem
  launcher := Rehearsal.StandIn.launcher {}

/-- The world in which it starts. -/
def calmWorld : World Tree Nat :=
  { store := Rehearsal.tree, launcher := 0 }

/-- A world in which a request arrives once the first iteration is about to begin. -/
def hastyWorld : World Tree Nat :=
  { calmWorld with arrivals := [1] }

/-- A request that just missed the check still ends the run in that iteration. -/
theorem hasty_shutdown :
    ∃ s, calm.Leads (.fresh {} hastyWorld) s ∧ s.progress.phase = .running ∧ 0 < s.world.waiting ∧
      ∃ fuel result final later, calm.run fuel (.fresh {} hastyWorld) = some (result, final) ∧
        final.events = s.events ++ later ∧ later.countP Event.isStart ≤ 1 ∧
          later.countP Event.isSweep ≤ 1 := by
  have hleads : calm.Leads (.fresh {} hastyWorld) (calm.step (.fresh {} hastyWorld)).session :=
    .single rfl
  obtain ⟨fuel, result, final, later, hrun, hevents, haftermath⟩ :=
    shutdown_is_prompt hleads rfl Nat.one_pos
  exact ⟨_, hleads, rfl, Nat.one_pos, fuel, result, final, later, hrun, hevents, haftermath.starts,
    haftermath.sweeps⟩

end RunSweep
