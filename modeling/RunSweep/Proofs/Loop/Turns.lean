import RunSweep.Proofs.Loop.Calls
import RunSweep.Proofs.Loop.Faults

/-!
# The loop keeps to its turns

`Progress` refuses an iteration that is begun or finished out of turn, and such a refusal would end a run.
`Setup.call?` is the call on the progress that a step makes, and `Setup.calls` lists those of a run. In any
session whatsoever, the progress is what these calls make of it. In a run of a fresh loop, and in every
later one, none of them is refused; so a run ends with such an error only if the program does, and it
always leaves a loop that has stopped for a reason, with no iteration under way.
-/

namespace RunSweep

variable {σ β : Type}

namespace Setup

/-- **The call on the progress that a step makes**, if it makes one. An iteration is begun before its
program is started and finished after its sweep, and the loop is stopped at a request or because of a
fault. -/
def call? (setup : Setup σ β) (s : Session σ β) : Option Progress.Call :=
  match s.progress.phase with
  | .stopped => none
  | .running =>
      match s.activity with
      | .check | .listen .. => if s.world.receive.1 then some (.stop .shutdownRequested) else none
      | .start => some .begin
      | .await _ course =>
          match course.poll.2 with
          | .pending _ => none
          | .ended result => if s.progress.plan.tolerates result then none else some (.stop .fault)
      | .sweep .. =>
          match (setup.sweeper.sweep setup.fileSystem s.world.store).1 with
          | .ok _ => some .finish
          | .error _ => some (.stop .fault)

/-- The calls that a run makes in its first `n` steps. -/
def calls (setup : Setup σ β) : ℕ → Session σ β → List Progress.Call
  | 0, _ => []
  | n + 1, s =>
      (setup.call? s).toList ++
        match setup.step s with
        | .next t => setup.calls n t
        | .done .. => []

/-- The session after the first `n` steps of a run, or the last one if it has fewer. -/
def advance (setup : Setup σ β) : ℕ → Session σ β → Session σ β
  | 0, s => s
  | n + 1, s =>
      match setup.step s with
      | .next t => setup.advance n t
      | .done _ t => t

end Setup

/-! ## One step -/

/-- **A session meets with an error**: its program has ended in one, or its working directory cannot be
listed. -/
inductive Meets (setup : Setup σ β) (s : Session σ β) : RunError → Prop where
  | program {index : UInt64} {course : Attempt σ β} {stage : Stage σ β} {e : RunError} :
      s.activity = .await index course → course.poll = (stage, .ended (.error e)) → Meets setup s e
  | listing {index : UInt64} {exit : Option ExitReport} {fault : Fault} {store : σ} :
      s.activity = .sweep index exit →
        setup.sweeper.sweep setup.fileSystem s.world.store = (.error fault, store) →
          Meets setup s (.listDir setup.sweeper.workingDir fault)

/-- **What a step does about its call**, whatever session it is taken in. -/
inductive Turn (setup : Setup σ β) (s : Session σ β) : Option Progress.Call → Step σ β → Prop where
  /-- The loop has stopped. -/
  | ended : s.progress.phase = .stopped → Turn setup s none (.done (.ok s.summary) s)
  | silent {t : Session σ β} : t.progress = s.progress → Turn setup s none (.next t)
  /-- It goes on from what the call has done. -/
  | accepted {c : Progress.Call} {t : Session σ β} :
      (s.progress.call c).1.isRefused = false → t.progress = (s.progress.call c).2 →
        Turn setup s (some c) (.next t)
  /-- It gives up with the refusal. -/
  | refused {c : Progress.Call} {e : RunError} {t : Session σ β} :
      (s.progress.call c).1 = .refused e → t.progress = s.progress →
        Turn setup s (some c) (.done (.error e) t)
  /-- It gives up with an error that it has met with. -/
  | fails {e : RunError} {t : Session σ β} :
      Meets setup s e → t.progress = s.progress → Turn setup s (some (.stop .fault)) (t.fail e)

namespace Turn

variable {setup : Setup σ β} {s : Session σ β} {c? : Option Progress.Call}

/-- What arrives from outside is no call. -/
theorem moment {t : Session σ β} (h : Turn setup s c? (.next t)) : Turn setup s c? (.next t.moment) := by
  cases h with
  | silent hprogress => exact .silent hprogress
  | accepted haccepted hprogress => exact .accepted haccepted hprogress

/-- **The progress is changed by the call alone.** -/
theorem progress_eq {step : Step σ β} (h : Turn setup s c? step) :
    step.session.progress = s.progress.after c?.toList := by
  cases h with
  | ended => rfl
  | silent hprogress => exact hprogress
  | accepted _ hprogress => exact hprogress
  | refused hrefused hprogress => exact hprogress.trans (Progress.eq_of_refused hrefused).1.symm
  | fails _ hprogress => exact congrArg (·.stop .fault) hprogress

end Turn

namespace Setup

variable {setup : Setup σ β} {s t : Session σ β}

theorem call?_of_stopped (h : s.progress.phase = .stopped) : setup.call? s = none := by
  rw [call?, h]

theorem turn_check (hrunning : s.progress.phase = .running) (hactivity : s.activity = .check) :
    Turn setup s (setup.call? s) s.check := by
  rw [call?, hrunning, hactivity, Session.check]
  rcases s.world.receive with ⟨_ | _, world⟩
  · exact .silent rfl
  · exact .accepted rfl rfl

theorem turn_start (hrunning : s.progress.phase = .running) (hactivity : s.activity = .start) :
    Turn setup s (setup.call? s) (setup.start s) := by
  rw [call?, hrunning, hactivity, start]
  cases hbegin : s.progress.begin with
  | ok begun => exact .accepted (by rw [Progress.call, hbegin]; rfl) (by rw [Progress.call, hbegin])
  | error e => exact .refused (by rw [Progress.call, hbegin]) rfl

theorem turn_await (hrunning : s.progress.phase = .running) {index : UInt64} {course : Attempt σ β}
    (hactivity : s.activity = .await index course) :
    Turn setup s (setup.call? s) (s.await index course) := by
  rw [call?, hrunning, hactivity]
  dsimp only
  rcases Session.poll_cases s.progress.plan course with
    ⟨stage, rest, hpoll⟩ | ⟨stage, result, hpoll, htolerates⟩ | ⟨stage, e, hpoll, hfatal⟩
  · rw [Session.await_of_pending hpoll, hpoll]
    exact .silent rfl
  · rw [Session.await_of_tolerated hpoll htolerates, hpoll]
    dsimp only
    rw [if_pos htolerates]
    exact .silent rfl
  · rw [Session.await_of_fatal hpoll hfatal, hpoll]
    dsimp only
    rw [if_neg hfatal]
    exact .fails (.program hactivity hpoll) rfl

theorem turn_listen (hrunning : s.progress.phase = .running) {index : UInt64} {rest : Attempt σ β}
    (hactivity : s.activity = .listen index rest) :
    Turn setup s (setup.call? s) (s.listen index rest) := by
  rw [call?, hrunning, hactivity, Session.listen]
  rcases s.world.receive with ⟨_ | _, world⟩
  · exact .silent rfl
  · exact .accepted rfl rfl

theorem turn_sweep (hrunning : s.progress.phase = .running) {index : UInt64} {exit : Option ExitReport}
    (hactivity : s.activity = .sweep index exit) :
    Turn setup s (setup.call? s) (setup.sweep s index exit) := by
  rw [call?, hrunning, hactivity]
  dsimp only
  rcases setup.sweep_cases s with ⟨report, store, hsweep⟩ | ⟨fault, store, hsweep⟩
  · rw [sweep_of_report hsweep, hsweep]
    dsimp only
    cases hfinish : s.progress.finish with
    | ok finished =>
        exact .accepted (by rw [Progress.call, hfinish]; rfl) (by rw [Progress.call, hfinish])
    | error e => exact .refused (by rw [Progress.call, hfinish]) rfl
  · rw [sweep_of_unlisted hsweep, hsweep]
    exact .fails (.listing hactivity hsweep) rfl

/-- What is done next takes its turn, by what it is. -/
theorem turn_act (hrunning : s.progress.phase = .running) :
    Turn setup s (setup.call? s) (setup.act s) := by
  rw [act]
  cases hactivity : s.activity with
  | check => exact turn_check hrunning hactivity
  | start => exact turn_start hrunning hactivity
  | await index course => exact turn_await hrunning hactivity
  | listen index rest => exact turn_listen hrunning hactivity
  | sweep index exit => exact turn_sweep hrunning hactivity

/-- **Every step takes its turn**, in whatever session. -/
theorem turn_step (setup : Setup σ β) (s : Session σ β) :
    Turn setup s (setup.call? s) (setup.step s) := by
  cases hphase : s.progress.phase with
  | stopped =>
      rw [call?_of_stopped hphase, step_of_stopped hphase]
      exact .ended hphase
  | running =>
      have hturn : Turn setup s (setup.call? s) (setup.act s) := turn_act hphase
      cases hact : setup.act s with
      | next t =>
          rw [step_of_act_next hphase hact]
          exact (hact ▸ hturn).moment
      | done result t =>
          rw [step_of_act_done hphase hact]
          exact hact ▸ hturn

/-! ## Any number of steps -/

/-- **The loop drives its progress by its calls.** -/
theorem progress_advance (setup : Setup σ β) (s : Session σ β) (n : ℕ) :
    (setup.advance n s).progress = s.progress.after (setup.calls n s) := by
  -- the first call is made, then those of the steps that follow
  induction n generalizing s with
  | zero => rfl
  | succ n ih =>
      have hprogress := (setup.turn_step s).progress_eq
      rw [advance, calls, Progress.after_append, ← hprogress]
      cases setup.step s with
      | next t => exact ih t
      | done result t => rfl

/-- A run that is over by then has come to its last session. -/
theorem advance_of_go {fuel : ℕ} {result : Except RunError Summary} {final : Session σ β}
    (h : setup.go fuel s = some (result, final)) : setup.advance fuel s = final := by
  induction fuel generalizing s with
  | zero => cases h
  | succ fuel ih =>
      rw [go] at h
      rw [advance]
      cases hstep : setup.step s with
      | next t =>
          rw [hstep] at h
          exact ih h
      | done result' t =>
          rw [hstep] at h
          cases h
          rfl

end Setup

/-! ## In a run of the loop -/

namespace Setup

variable {setup : Setup σ β} {s : Session σ β}

/-- Only a loop that has not stopped makes a call. -/
theorem running_of_call? {c : Progress.Call} (h : setup.call? s = some c) :
    s.progress.phase = .running :=
  Progress.running_of_not_stopped fun hstopped =>
    absurd (h.symm.trans (call?_of_stopped hstopped)) nofun

/-- An iteration is begun where none is under way. -/
theorem isBusy_of_begin (h : setup.call? s = some .begin) : s.activity.isBusy = false := by
  rw [call?, running_of_call? h] at h
  cases hactivity : s.activity with
  | check | start => rfl
  | await | listen | sweep => grind

/-- An iteration is finished where one is under way. -/
theorem isBusy_of_finish (h : setup.call? s = some .finish) : s.activity.isBusy = true := by
  rw [call?, running_of_call? h] at h
  cases hactivity : s.activity with
  | check | start => grind
  | await | listen | sweep => rfl

end Setup

namespace Ledger

variable {setup : Setup σ β} {plan : Plan} {rounds : List Round} {s final : Session σ β}

/-- **A session that keeps its account makes no call out of turn.** -/
theorem accepts (h : Ledger setup plan rounds s) {c : Progress.Call} (hcall : setup.call? s = some c) :
    (s.progress.call c).1.isRefused = false := by
  have hrunning := Setup.running_of_call? hcall
  cases c with
  | stop reason => rfl
  | begin =>
      rw [← Bool.not_eq_true, Progress.isRefused_begin, hrunning, h.underWay,
        Setup.isBusy_of_begin hcall]
      decide
  | finish =>
      rw [← Bool.not_eq_true, Progress.isRefused_finish, hrunning, h.underWay,
        Setup.isBusy_of_finish hcall]
      decide

/-- So an error that ends the run has been met with. -/
theorem meets_of_step (h : Ledger setup plan rounds s) {e : RunError}
    (hstep : setup.step s = .done (.error e) final) : Meets setup s e := by
  have hturn := setup.turn_step s
  rw [hstep] at hturn
  generalize hcall : setup.call? s = c?, hdone : Step.done (.error e) final = step at hturn
  cases hturn with
  | ended | silent | accepted => cases hdone
  | refused hrefused =>
      have haccepted := h.accepts hcall
      rw [hrefused] at haccepted
      cases haccepted
  | fails hmeets =>
      cases hdone
      exact hmeets

end Ledger

/-- **A loop has stopped for good**: the reason is on record, and no iteration is under way. -/
structure Progress.Closed (p : Progress) (reason : StopReason) : Prop where
  phase : p.phase = .stopped
  stopReason : p.stopReason = some reason
  underWay : p.underWay = false

/-- The session in which a run begins. -/
def Session.anew (s : Session σ β) : Session σ β :=
  { s with totals := {}, activity := .check }

namespace Setup

variable {setup : Setup σ β} {plan : Plan} {world : World σ β} {s final : Session σ β}

theorem calls_of_stopped (h : s.progress.phase = .stopped) (n : ℕ) : setup.calls n s = [] := by
  cases n with
  | zero => rfl
  | succ n =>
      rw [calls, call?_of_stopped h, step_of_stopped h]
      rfl

/-- **No call of a run is refused**, however many steps it takes. -/
theorem accepted_calls (h : ∃ rounds, Ledger setup plan rounds s) (n : ℕ) :
    ∀ r ∈ s.progress.replies (setup.calls n s), r.isRefused = false := by
  induction n generalizing s with
  | zero => nofun
  | succ n ih =>
      obtain ⟨rounds, hledger⟩ := h
      rw [calls, Progress.replies_append, ← (setup.turn_step s).progress_eq]
      intro r hr
      rcases List.mem_append.mp hr with hr | hr
      -- the call of the first step
      · cases hcall : setup.call? s with
        | none =>
            rw [hcall] at hr
            cases hr
        | some c =>
            rw [hcall] at hr
            rw [List.mem_singleton.mp hr]
            exact hledger.accepts hcall
      -- the calls of the steps that follow
      · have hnext := hledger.step
        cases hstep : setup.step s with
        | next t =>
            rw [hstep] at hr hnext
            exact ih hnext r hr
        | done result t =>
            rw [hstep] at hr
            cases hr

/-- A run of a fresh loop closes it, for the reason that it tells. -/
theorem exists_closed {result : Except RunError Summary}
    (h : setup.Ends (.fresh plan world) result final) :
    ∃ reason, final.progress.Closed reason ∧
      ∀ summary, result = .ok summary → summary.stopReason = reason := by
  obtain ⟨reason, hreason, hsummary⟩ := exists_reason h
  obtain ⟨⟨rounds, hledger⟩, hstopped, -⟩ := exists_ledger_of_ends h
  refine ⟨reason, ⟨hstopped, hreason, ?_⟩, fun summary hok => (hsummary summary hok).2⟩
  rw [hledger.underWay, hledger.activity_of_stopped hstopped]
  rfl

/-- A closed loop tells the same reason when it is run again, and stays as it is but for the sums. -/
theorem run_of_closed {reason : StopReason} (hclosed : s.progress.Closed reason) {fuel : ℕ}
    {result : Except RunError Summary} (h : setup.run fuel s = some (result, final)) :
    final = s.anew ∧ ∃ summary, result = .ok summary ∧ summary.stopReason = reason := by
  cases fuel with
  | zero => cases h
  | succ fuel =>
      rw [run_of_stopped setup hclosed.phase hclosed.stopReason] at h
      cases h
      exact ⟨rfl, _, rfl, rfl⟩

/-- **A loop is fresh or closed** whenever it is run. -/
theorem later_cases (h : setup.Later (.fresh plan world) s) :
    (∃ world', s = .fresh plan world') ∨ ∃ reason, s.progress.Closed reason := by
  induction h with
  | ended => exact .inl ⟨world, rfl⟩
  | meanwhile world' _ ih =>
      rcases ih with ⟨_, rfl⟩ | hclosed
      · exact .inl ⟨world', rfl⟩
      · exact .inr hclosed
  | again _ hrun ih =>
      rcases ih with ⟨world', rfl⟩ | ⟨reason, hclosed⟩
      · obtain ⟨reason, hclosed, -⟩ := exists_closed ⟨_, hrun⟩
        exact .inr ⟨reason, hclosed⟩
      · obtain ⟨rfl, -⟩ := run_of_closed hclosed hrun
        exact .inr ⟨reason, hclosed⟩

end Setup

/-- **A run makes its calls in turn**, and leaves a loop that has stopped for good. -/
structure InTurn (setup : Setup σ β) (s : Session σ β) : Prop where
  /-- After any number of steps, the progress is what the calls so far have made of it. -/
  driven : ∀ n, (setup.advance n s.anew).progress = s.progress.after (setup.calls n s.anew)
  /-- No iteration is refused to be begun or finished. -/
  accepted : ∀ n, ∀ r ∈ s.progress.replies (setup.calls n s.anew), r.isRefused = false
  /-- If the run ends with a refusal all the same, then its program has ended with that very error. -/
  refusal : ∀ fuel phase final,
    setup.run fuel s = some (.error (.invalidTransition phase), final) →
      ∃ t index course stage, setup.Leads s.anew t ∧ t.activity = .await index course ∧
        course.poll = (stage, .ended (.error (.invalidTransition phase)))
  /-- The run ends in the session that its steps lead to, and tells the reason on record if it tells
  one. -/
  ends : ∀ fuel result final, setup.run fuel s = some (result, final) →
    final = setup.advance fuel s.anew ∧
      ∃ reason, final.progress.Closed reason ∧
        ∀ summary, result = .ok summary → summary.stopReason = reason

namespace InTurn

variable {setup : Setup σ β} {s : Session σ β}

theorem of_fresh (setup : Setup σ β) (plan : Plan) (world : World σ β) :
    InTurn setup (.fresh plan world) := by
  constructor
  case driven => exact setup.progress_advance _
  case accepted => exact Setup.accepted_calls ⟨[], .fresh setup plan world⟩
  case refusal =>
    intro fuel phase final hrun
    obtain ⟨t, hleads, hlast⟩ := Setup.exists_last ⟨fuel, hrun⟩
    obtain ⟨rounds, hledger⟩ := Setup.exists_ledger hleads
    cases hledger.meets_of_step hlast with
    | program hactivity hpoll => exact ⟨t, _, _, _, hleads, hactivity, hpoll⟩
  case ends =>
    intro fuel result final hrun
    exact ⟨(Setup.advance_of_go hrun).symm, Setup.exists_closed ⟨fuel, hrun⟩⟩

/-- A closed loop makes no calls. -/
theorem of_closed {reason : StopReason} (hclosed : s.progress.Closed reason) : InTurn setup s := by
  constructor
  case driven => exact setup.progress_advance s.anew
  case accepted =>
    intro n
    rw [Setup.calls_of_stopped (s := s.anew) hclosed.phase]
    exact nofun
  case refusal =>
    intro fuel phase final hrun
    obtain ⟨-, summary, hok, -⟩ := Setup.run_of_closed hclosed hrun
    cases hok
  case ends =>
    intro fuel result final hrun
    refine ⟨(Setup.advance_of_go hrun).symm, reason, ?_⟩
    obtain ⟨rfl, summary, rfl, hreason⟩ := Setup.run_of_closed hclosed hrun
    exact ⟨hclosed, fun summary' hok => Except.ok.inj hok ▸ hreason⟩

end InTurn

/-- **The loop keeps to its turns**, in its first run and in every later one, whatever the program does,
whenever requests arrive, and whatever becomes of the world between two runs. -/
theorem runs_in_turn (setup : Setup σ β) (plan : Plan) (world : World σ β) (s : Session σ β)
    (h : setup.Later (.fresh plan world) s) : InTurn setup s := by
  rcases Setup.later_cases h with ⟨world', rfl⟩ | ⟨reason, hclosed⟩
  · exact .of_fresh setup plan world'
  · exact .of_closed hclosed

example : calm.calls 9 (.fresh { limit := some 2 } calmWorld) = [.begin, .finish, .begin, .finish] := by
  decide +kernel

/-- A loop whose program ends with a refusal of its own. -/
def impostor : Setup Tree Nat :=
  { calm with
    launcher :=
      { launch := fun _ store starts =>
          .ended { store, launcher := starts + 1 } (.error (.invalidTransition .running)) } }

/-- The run ends with the refusal, though no call is refused; and the loop may be run again. -/
theorem impostor_runs_in_turn :
    ∃ final,
      impostor.run 3 (.fresh {} calmWorld) = some (.error (.invalidTransition .running), final) ∧
        InTurn impostor (.fresh {} calmWorld) ∧
          final.progress = Progress.after { plan := {} } [.begin, .stop .fault] ∧
            impostor.Later (.fresh {} calmWorld) { final with world := calmWorld } ∧
              InTurn impostor { final with world := calmWorld } := by
  obtain ⟨final, hrun⟩ : ∃ final, impostor.run 3 (.fresh {} calmWorld) =
      some (.error (.invalidTransition .running), final) := ⟨_, rfl⟩
  have hcalls : impostor.calls 3 (.fresh {} calmWorld) = [.begin, .stop .fault] := rfl
  have hfirst := runs_in_turn impostor {} calmWorld _ .ended
  have hagain : impostor.Later (.fresh {} calmWorld) { final with world := calmWorld } :=
    .meanwhile calmWorld (.again .ended hrun)
  refine ⟨final, hrun, hfirst, ?_, hagain, runs_in_turn impostor {} calmWorld _ hagain⟩
  rw [(hfirst.ends 3 _ final hrun).1, hfirst.driven 3, ← hcalls]
  rfl

end RunSweep
