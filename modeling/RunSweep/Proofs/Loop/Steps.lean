import Mathlib.Logic.Relation
import Mathlib.Tactic.SplitIfs
import RunSweep.Loop.Basic

/-!
# Steps of the loop

A run goes from session to session by `Setup.step`. `Setup.Leads` says that some steps lead from one
session to another, and `Setup.Ends` that a run from a session ends, and how. A run of the loop that ends
goes through sessions of the first kind only, and one that leads to a session that ends, ends likewise.
-/

namespace RunSweep

/-- Whether the loop sweeps after such an end of the program. -/
def Plan.tolerates (plan : Plan) : Except RunError ExitReport → Bool
  | .ok _ => true
  | .error e => e.isLaunch && plan.onLaunchFailure == .carryOn

namespace Progress

variable {p : Progress}

theorem begin_of_idle (hrunning : p.phase = .running) (hidle : p.underWay = false) :
    p.begin = .ok (p.completed + 1, { p with underWay := true }) := by
  rw [begin, hrunning, hidle]
  exact if_neg Bool.false_ne_true

/-- Neither the beginning nor the end of an iteration changes the plan. -/
theorem plan_of_begin {q : Progress} {index : UInt64} (h : p.begin = .ok (index, q)) :
    q.plan = p.plan := by
  unfold begin at h
  split_ifs at h
  obtain ⟨-, rfl⟩ := Prod.mk.inj (Except.ok.inj h)
  rfl

theorem plan_of_finish {q : Progress} (h : p.finish = .ok q) : q.plan = p.plan := by
  unfold finish at h
  split_ifs at h
  obtain rfl := Except.ok.inj h
  unfold stopAtLimit
  split
  · split_ifs <;> rfl
  · rfl

/-- The first reason for stopping stands. -/
theorem stopReason_stop (h : p.stopReason = none) (reason : StopReason) :
    (p.stop reason).stopReason = some reason := by
  rw [stop, h]
  rfl

/-- The progress with one more complete iteration. -/
def finished (p : Progress) : Progress :=
  { p with underWay := false, completed := p.completed + 1 }.stopAtLimit

theorem finish_of_busy (hrunning : p.phase = .running) (hbusy : p.underWay = true) :
    p.finish = .ok p.finished := by
  rw [finish, if_neg]
  · rfl
  · rw [hrunning, hbusy]
    exact Bool.false_ne_true

/-- **An iteration that is finished counts**, and the loop stops at its limit or goes on. -/
theorem finished_cases (hrunning : p.phase = .running) (hreason : p.stopReason = none) :
    p.finished.plan = p.plan ∧ p.finished.completed = p.completed + 1 ∧ p.finished.underWay = false ∧
      (((∃ limit, p.plan.limit = some limit ∧ limit ≤ p.completed + 1) ∧
          p.finished.phase = .stopped ∧ p.finished.stopReason = some .iterationLimit) ∨
        ((∀ limit, p.plan.limit = some limit → p.completed + 1 < limit) ∧
          p.finished.phase = .running ∧ p.finished.stopReason = none)) := by
  unfold finished stopAtLimit
  split
  · rename_i limit hlimit
    by_cases hreached : limit ≤ p.completed + 1
    · rw [if_pos hreached]
      exact ⟨rfl, rfl, rfl, .inl ⟨⟨limit, hlimit, hreached⟩, rfl, stopReason_stop hreason _⟩⟩
    · rw [if_neg hreached]
      refine ⟨rfl, rfl, rfl, .inr ⟨fun limit' hlimit' => ?_, hrunning, hreason⟩⟩
      obtain rfl := Option.some.inj (hlimit.symm.trans hlimit')
      exact UInt64.not_le.mp hreached
  · rename_i hlimit
    exact ⟨rfl, rfl, rfl, .inr ⟨fun limit' hlimit' => absurd (hlimit.symm.trans hlimit') nofun,
      hrunning, hreason⟩⟩

end Progress

variable {σ β : Type}

namespace World

variable {w : World σ β}

/-- The world after a request is read. -/
def taken (w : World σ β) : World σ β :=
  { w with waiting := w.waiting - 1 }

theorem receive_of_waiting (h : 0 < w.waiting) : w.receive = (true, w.taken) := by
  rw [receive, if_neg (Nat.pos_iff_ne_zero.mp h)]
  rfl

theorem waiting_send (h : 0 < w.waiting) (requests : Nat) : 0 < (w.send requests).waiting :=
  Nat.lt_min.mpr ⟨Nat.succ_pos 3, Nat.lt_of_lt_of_le h (Nat.le_add_right _ _)⟩

/-- **A request that waits is not lost** while others arrive. -/
theorem waiting_moment (h : 0 < w.waiting) : 0 < w.moment.waiting := by
  unfold moment
  split
  · exact h
  · exact waiting_send h _

theorem waiting_after (h : 0 < w.waiting) (stage : Stage σ β) : 0 < (w.after stage).waiting :=
  waiting_send h _

end World

/-! ## The parts of a step -/

/-- The session that a step leads to. -/
def Step.session : Step σ β → Session σ β
  | next s => s
  | done _ s => s

namespace Session

variable {s : Session σ β} {index : UInt64}

theorem check_of_waiting (h : 0 < s.world.waiting) :
    s.check = .next ({ s with world := s.world.taken }.stop .shutdownRequested) := by
  rw [check, World.receive_of_waiting h]

theorem listen_of_waiting (h : 0 < s.world.waiting) (rest : Attempt σ β) :
    s.listen index rest =
      .next (({ s with world := s.world.taken }.record (.abandoned index)).stop
        .shutdownRequested) := by
  rw [listen, World.receive_of_waiting h]

variable {course rest : Attempt σ β} {stage : Stage σ β} {result : Except RunError ExitReport}

theorem resume_of_tolerated (htolerates : s.progress.plan.tolerates result = true) :
    s.resume index result = .next { s with activity := .sweep index result.toOption } := by
  cases result with
  | ok exit => rfl
  | error e => exact if_pos htolerates

theorem resume_of_fatal {e : RunError} (hfatal : ¬s.progress.plan.tolerates (.error e) = true) :
    s.resume index (.error e) = s.fail e :=
  if_neg hfatal

/-- The session after the end of the program. -/
def returned (s : Session σ β) (index : UInt64) (stage : Stage σ β)
    (result : Except RunError ExitReport) : Session σ β :=
  { s with world := s.world.after stage }.record (.returned index result)

theorem await_of_pending (h : course.poll = (stage, .pending rest)) :
    s.await index course =
      .next { s with world := s.world.after stage, activity := .listen index rest } := by
  rw [await, h]

theorem await_of_tolerated (h : course.poll = (stage, .ended result))
    (htolerates : s.progress.plan.tolerates result = true) :
    s.await index course =
      .next { s.returned index stage result with activity := .sweep index result.toOption } := by
  rw [await, h]
  exact resume_of_tolerated htolerates

theorem await_of_fatal {e : RunError} (h : course.poll = (stage, .ended (.error e)))
    (hfatal : ¬s.progress.plan.tolerates (.error e) = true) :
    s.await index course = (s.returned index stage (.error e)).fail e := by
  rw [await, h]
  exact resume_of_fatal hfatal

/-- The session after a sweep, in which nothing is entered yet. -/
def swept (s : Session σ β) (index : UInt64) (result : Except Fault Report) (store : σ) :
    Session σ β :=
  { s with world := { s.world with store }, activity := .check }.record (.swept index result)

/-- **What a look at the program finds**: it is pending, or it has ended in a way that the loop tolerates,
or in one that ends the loop. -/
theorem poll_cases (plan : Plan) (course : Attempt σ β) :
    (∃ stage rest, course.poll = (stage, .pending rest)) ∨
      (∃ stage result, course.poll = (stage, .ended result) ∧ plan.tolerates result = true) ∨
        ∃ stage e, course.poll = (stage, .ended (.error e)) ∧
          ¬plan.tolerates (.error e) = true := by
  rcases course.poll with ⟨stage, (e | exit) | rest⟩
  · by_cases htolerates : plan.tolerates (.error e) = true
    · exact .inr (.inl ⟨stage, _, rfl, htolerates⟩)
    · exact .inr (.inr ⟨stage, e, rfl, htolerates⟩)
  · exact .inr (.inl ⟨stage, _, rfl, rfl⟩)
  · exact .inl ⟨stage, rest, rfl⟩

end Session

namespace Setup

variable {setup : Setup σ β} {s t : Session σ β}

/-- Whether the working directory can be listed decides how a sweep goes. -/
theorem sweep_cases (setup : Setup σ β) (s : Session σ β) :
    (∃ report store,
        setup.sweeper.sweep setup.fileSystem s.world.store = (.ok report, store)) ∨
      ∃ fault store, setup.sweeper.sweep setup.fileSystem s.world.store = (.error fault, store) := by
  rcases setup.sweeper.sweep setup.fileSystem s.world.store with ⟨fault | report, store⟩
  · exact .inr ⟨fault, store, rfl⟩
  · exact .inl ⟨report, store, rfl⟩

theorem start_of_idle (hrunning : s.progress.phase = .running)
    (hidle : s.progress.underWay = false) :
    setup.start s =
      .next { s.record (.invoked (s.progress.completed + 1) setup.command) with
        progress := { s.progress with underWay := true }
        activity := .await (s.progress.completed + 1)
          (setup.launcher.launch setup.command s.world.store s.world.launcher) } := by
  rw [start, Progress.begin_of_idle hrunning hidle]

variable {index : UInt64} {exit : Option ExitReport}

theorem sweep_of_report {report : Report} {store : σ}
    (h : setup.sweeper.sweep setup.fileSystem s.world.store = (.ok report, store)) :
    setup.sweep s index exit =
      match s.progress.finish with
      | .ok progress =>
          .next { setup.enter (s.swept index (.ok report) store) { index, exit, report } with progress }
      | .error e =>
          .done (.error e) (setup.enter (s.swept index (.ok report) store) { index, exit, report }) := by
  rw [sweep, h]
  rfl

theorem sweep_of_listed {report : Report} {store : σ} (hrunning : s.progress.phase = .running)
    (hbusy : s.progress.underWay = true)
    (h : setup.sweeper.sweep setup.fileSystem s.world.store = (.ok report, store)) :
    setup.sweep s index exit =
      .next { setup.enter (s.swept index (.ok report) store) { index, exit, report } with
        progress := s.progress.finished } := by
  rw [sweep_of_report h, Progress.finish_of_busy hrunning hbusy]

theorem sweep_of_unlisted {fault : Fault} {store : σ}
    (h : setup.sweeper.sweep setup.fileSystem s.world.store = (.error fault, store)) :
    setup.sweep s index exit =
      (s.swept index (.error fault) store).fail (.listDir setup.sweeper.workingDir fault) := by
  rw [sweep, h]
  rfl

theorem step_of_stopped (h : s.progress.phase = .stopped) :
    setup.step s = .done (.ok s.summary) s := by
  rw [step, h]

theorem step_of_act_next (hrunning : s.progress.phase = .running) (h : setup.act s = .next t) :
    setup.step s = .next t.moment := by
  rw [step, hrunning]
  dsimp only
  rw [h]

theorem step_of_act_done {result : Except RunError Summary} (hrunning : s.progress.phase = .running)
    (h : setup.act s = .done result t) : setup.step s = .done result t := by
  rw [step, hrunning]
  dsimp only
  rw [h]

/-- The last step is that of a loop that has stopped, or stops with an error. -/
theorem step_done_cases {result : Except RunError Summary} (h : setup.step s = .done result t) :
    (s.progress.phase = .stopped ∧ result = .ok s.summary ∧ t = s) ∨
      (s.progress.phase = .running ∧ setup.act s = .done result t) := by
  unfold step at h
  split at h
  · rename_i hstopped
    cases h
    exact .inl ⟨hstopped, rfl, rfl⟩
  · rename_i hrunning
    split at h
    · cases h
    · rename_i result' t' hact
      cases h
      exact .inr ⟨hrunning, hact⟩

/-- **What is kept by what is done next**, and by the moment after it, is kept by a step. -/
theorem step_preserves {motive : Session σ β → Prop} (stay : motive s)
    (moment : ∀ t, motive t → motive t.moment)
    (act : s.progress.phase = .running → motive (setup.act s).session) :
    motive (setup.step s).session := by
  unfold step
  split
  · exact stay
  · rename_i hrunning
    have hact := act hrunning
    cases hnext : setup.act s with
    | next t =>
        rw [hnext] at hact
        exact moment t hact
    | done result t =>
        rw [hnext] at hact
        exact hact

/-! ## Runs -/

/-- Some steps of a run lead from one session to another. -/
def Leads (setup : Setup σ β) : Session σ β → Session σ β → Prop :=
  Relation.ReflTransGen fun s s' => setup.step s = .next s'

/-- A run from a session ends, with a result and in another session. -/
def Ends (setup : Setup σ β) (s : Session σ β) (result : Except RunError Summary)
    (final : Session σ β) : Prop :=
  ∃ fuel, setup.go fuel s = some (result, final)

variable {result : Except RunError Summary} {final : Session σ β}

theorem ends_of_done (h : setup.step s = .done result final) : setup.Ends s result final :=
  ⟨1, by rw [go, h]⟩

theorem ends_of_next (h : setup.step s = .next t) (ht : setup.Ends t result final) :
    setup.Ends s result final := by
  obtain ⟨fuel, hfuel⟩ := ht
  exact ⟨fuel + 1, by rw [go, h, ← hfuel]⟩

theorem ends_of_leads (h : setup.Leads s t) (ht : setup.Ends t result final) :
    setup.Ends s result final := by
  induction h using Relation.ReflTransGen.head_induction_on with
  | refl => exact ht
  | head hstep _ ih => exact ends_of_next hstep ih

/-- **A run that ends** goes through sessions to one whose step is the last. -/
theorem exists_last (h : setup.Ends s result final) :
    ∃ t, setup.Leads s t ∧ setup.step t = .done result final := by
  obtain ⟨fuel, h⟩ := h
  -- a run uses up its fuel step by step
  induction fuel generalizing s with
  | zero => cases h
  | succ fuel ih =>
      rw [go] at h
      split at h
      · rename_i s' hstep
        obtain ⟨t, hleads, hlast⟩ := ih h
        exact ⟨t, .head hstep hleads, hlast⟩
      · rename_i result' final' hstep
        cases h
        exact ⟨s, .refl, hstep⟩

/-- **What every step keeps** holds of the sessions that a run goes through. -/
theorem leads_preserves {motive : Session σ β → Prop} (start : motive s)
    (step : ∀ t, setup.Leads s t → motive t → motive (setup.step t).session)
    (h : setup.Leads s t) : motive t := by
  induction h with
  | refl => exact start
  | tail hleads hstep ih =>
      have hnext := step _ hleads ih
      rw [hstep] at hnext
      exact hnext

/-- It holds of the session in which the run ends as well. -/
theorem ends_preserves {motive : Session σ β → Prop} (start : motive s)
    (step : ∀ t, setup.Leads s t → motive t → motive (setup.step t).session)
    (h : setup.Ends s result final) : motive final := by
  obtain ⟨t, hleads, hlast⟩ := exists_last h
  have hfinal := step t hleads (leads_preserves start step hleads)
  rw [hlast] at hfinal
  exact hfinal

/-- The session that so many steps lead to, unless the run is over before. -/
def reach (setup : Setup σ β) : Nat → Session σ β → Option (Session σ β)
  | 0, s => some s
  | n + 1, s =>
      match setup.step s with
      | .next t => setup.reach n t
      | .done .. => none

/-- A run comes to the sessions that it is seen to reach. -/
theorem leads_of_reach {n : Nat} {p : Session σ β → Bool} (h : (setup.reach n s).any p = true) :
    ∃ t, setup.Leads s t ∧ p t = true := by
  induction n generalizing s with
  | zero => exact ⟨s, .refl, h⟩
  | succ n ih =>
      rw [reach] at h
      split at h
      · rename_i t hstep
        obtain ⟨u, hleads, hu⟩ := ih h
        exact ⟨u, .head hstep hleads, hu⟩
      · cases h

/-- A fresh session is as a run wants it. -/
theorem run_fresh (setup : Setup σ β) (fuel : Nat) (plan : Plan) (world : World σ β) :
    setup.run fuel (.fresh plan world) = setup.go fuel (.fresh plan world) := rfl

end Setup

end RunSweep
