import RunSweep.Proofs.Loop.Steps

/-!
# One request is as good as many

The control channel holds only so many requests, and one that finds no room is lost. It might as well
have waited for room, or come later: the first request that is read stops the loop for good. So how many
more wait, and how many are still to arrive, makes no difference to a run in which one waits already.
-/

namespace RunSweep

variable {σ β : Type}

/-- The world with other requests, waiting and to arrive. -/
def World.withRequests (w : World σ β) (waiting : Nat) (arrivals : List Nat) : World σ β :=
  { w with waiting, arrivals }

/-- The session with other requests. -/
def Session.withRequests (s : Session σ β) (waiting : Nat) (arrivals : List Nat) : Session σ β :=
  { s with world := s.world.withRequests waiting arrivals }

/-- What arrives from outside changes the requests only. -/
theorem World.moment_eq (w : World σ β) :
    ∃ waiting arrivals, w.moment = w.withRequests waiting arrivals := by
  unfold moment
  split
  · exact ⟨w.waiting, w.arrivals, rfl⟩
  · exact ⟨_, _, rfl⟩

theorem World.moment_withRequests (w : World σ β) (waiting : Nat) (arrivals : List Nat) :
    ∃ waiting' arrivals',
      (w.withRequests waiting arrivals).moment = w.moment.withRequests waiting' arrivals' := by
  obtain ⟨_, _, hw⟩ := w.moment_eq
  obtain ⟨waiting', arrivals', hother⟩ := (w.withRequests waiting arrivals).moment_eq
  exact ⟨waiting', arrivals', by rw [hw, hother]; rfl⟩

/-- **Two sessions with a request each**: they differ in nothing but the requests, and unless the loop has
stopped, at least one waits in either of them. -/
structure Session.Pressed (s s' : Session σ β) : Prop where
  same : ∃ waiting arrivals, s' = s.withRequests waiting arrivals
  waiting : s.progress.phase = .running → 0 < s.world.waiting ∧ 0 < s'.world.waiting

/-- Two steps that lead to such sessions, or end in them with the same result. -/
inductive Step.Pressed : Step σ β → Step σ β → Prop where
  | next {s s' : Session σ β} : s.Pressed s' → Pressed (.next s) (.next s')
  | done (result : Except RunError Summary) {s s' : Session σ β} :
      s.Pressed s' → Pressed (.done result s) (.done result s')

namespace Session.Pressed

variable {setup : Setup σ β} {s s' : Session σ β}

/-- Requests do not matter once the loop has stopped. -/
theorem of_stopped (h : s.progress.phase = .stopped) {waiting : Nat} {arrivals : List Nat}
    (hsame : s' = s.withRequests waiting arrivals) : s.Pressed s' := by
  refine ⟨⟨waiting, arrivals, hsame⟩, fun hrunning => ?_⟩
  rw [h] at hrunning
  cases hrunning

theorem moment (h : s.Pressed s') : s.moment.Pressed s'.moment := by
  obtain ⟨⟨waiting, arrivals, rfl⟩, hwaiting⟩ := h
  obtain ⟨waiting', arrivals', hmoment⟩ := s.world.moment_withRequests waiting arrivals
  refine ⟨⟨waiting', arrivals', ?_⟩, fun hrunning => ?_⟩
  · show { s with world := (s.world.withRequests waiting arrivals).moment } = _
    rw [hmoment]
    rfl
  · obtain ⟨hmine, hother⟩ := hwaiting hrunning
    exact ⟨World.waiting_moment hmine, World.waiting_moment hother⟩

/-- The sessions that are left if only the requests differ still, and none has been read. -/
theorem of_waiting {waiting : Nat} {arrivals : List Nat} (hsame : s' = s.withRequests waiting arrivals)
    (hmine : 0 < s.world.waiting) (hother : 0 < s'.world.waiting) : s.Pressed s' :=
  ⟨⟨waiting, arrivals, hsame⟩, fun _ => ⟨hmine, hother⟩⟩

/-! ## The parts of a step -/

section Parts

variable {waiting : Nat} {arrivals : List Nat} (hmine : 0 < s.world.waiting) (hother : 0 < waiting)

include hmine hother

theorem check : s.check.Pressed (s.withRequests waiting arrivals).check := by
  rw [check_of_waiting hmine, check_of_waiting hother]
  exact .next (of_stopped rfl rfl)

theorem listen (index : UInt64) (rest : Attempt σ β) :
    (s.listen index rest).Pressed ((s.withRequests waiting arrivals).listen index rest) := by
  rw [listen_of_waiting hmine, listen_of_waiting hother]
  exact .next (of_stopped rfl rfl)

theorem start : (setup.start s).Pressed (setup.start (s.withRequests waiting arrivals)) := by
  unfold Setup.start
  dsimp only [withRequests]
  cases s.progress.begin with
  | error e => exact .done _ (of_waiting rfl hmine hother)
  | ok begun => exact .next (of_waiting rfl hmine hother)

theorem await (index : UInt64) (course : Attempt σ β) :
    (s.await index course).Pressed ((s.withRequests waiting arrivals).await index course) := by
  rcases poll_cases s.progress.plan course with
    ⟨stage, rest, hpoll⟩ | ⟨stage, result, hpoll, htolerates⟩ | ⟨stage, e, hpoll, hfatal⟩
  · rw [await_of_pending hpoll, await_of_pending hpoll]
    exact .next (of_waiting rfl (World.waiting_after hmine _) (World.waiting_after hother _))
  · rw [await_of_tolerated hpoll htolerates,
      await_of_tolerated (s := s.withRequests waiting arrivals) hpoll htolerates]
    exact .next (of_waiting rfl (World.waiting_after hmine _) (World.waiting_after hother _))
  · rw [await_of_fatal hpoll hfatal, await_of_fatal (s := s.withRequests waiting arrivals) hpoll hfatal]
    exact .done _ (of_stopped rfl rfl)

theorem sweep (index : UInt64) (exit : Option ExitReport) :
    (setup.sweep s index exit).Pressed (setup.sweep (s.withRequests waiting arrivals) index exit) := by
  -- the store is the same, and so is its sweep
  rcases setup.sweep_cases s with ⟨report, store, hsweep⟩ | ⟨fault, store, hsweep⟩ <;>
    have hsweep' : setup.sweeper.sweep setup.fileSystem
      (s.withRequests waiting arrivals).world.store = _ := hsweep
  · rw [Setup.sweep_of_report hsweep, Setup.sweep_of_report hsweep']
    dsimp only [withRequests]
    cases s.progress.finish with
    | ok progress => exact .next (of_waiting rfl hmine hother)
    | error e => exact .done _ (of_waiting rfl hmine hother)
  · rw [Setup.sweep_of_unlisted hsweep, Setup.sweep_of_unlisted hsweep']
    exact .done _ (of_stopped rfl rfl)

end Parts

/-- **Every step is the same**: requests are only looked for, and in both sessions one is found. -/
theorem step (h : s.Pressed s') : (setup.step s).Pressed (setup.step s') := by
  have hpressed := h
  obtain ⟨⟨waiting, arrivals, rfl⟩, hwaiting⟩ := h
  rcases hphase : s.progress.phase with _ | _
  · obtain ⟨hmine, hother⟩ := hwaiting hphase
    have hact : (setup.act s).Pressed (setup.act (s.withRequests waiting arrivals)) := by
      unfold Setup.act
      dsimp only [withRequests]
      cases s.activity with
      | check => exact check hmine hother
      | start => exact start hmine hother
      | await index course => exact await hmine hother index course
      | listen index rest => exact listen hmine hother index rest
      | sweep index exit => exact sweep hmine hother index exit
    unfold Setup.step
    rw [show (s.withRequests waiting arrivals).progress.phase = _ from hphase, hphase]
    generalize setup.act s = next at hact
    generalize setup.act (s.withRequests waiting arrivals) = next' at hact
    cases hact with
    | next h => exact .next h.moment
    | done result h => exact .done result h
  · rw [Setup.step_of_stopped hphase, Setup.step_of_stopped (s := s.withRequests waiting arrivals) hphase]
    exact .done _ hpressed

/-- **The runs are the same.** -/
theorem go (h : s.Pressed s') (fuel : Nat) :
    Option.Rel (fun r r' => r.1 = r'.1 ∧ r.2.Pressed r'.2) (setup.go fuel s) (setup.go fuel s') := by
  induction fuel generalizing s s' with
  | zero => exact .none
  | succ fuel ih =>
      have hstep : (setup.step s).Pressed (setup.step s') := h.step
      unfold Setup.go
      generalize setup.step s = next at hstep
      generalize setup.step s' = next' at hstep
      cases hstep with
      | next h => exact ih h
      | done result h => exact .some ⟨rfl, h⟩

end Session.Pressed

/-- **One request is as good as many.** Take a run that ends, from a session in which a request waits. It
ends in the same way however many requests wait, as long as one does, and whatever requests are to arrive.
Only the requests that are left differ. -/
theorem run_of_more_requests (setup : Setup σ β) {s : Session σ β} (hwaiting : 0 < s.world.waiting)
    {waiting : Nat} (hmore : 0 < waiting) (arrivals : List Nat) {fuel : Nat}
    {result : Except RunError Summary} {final : Session σ β}
    (h : setup.go fuel s = some (result, final)) :
    ∃ left later, setup.go fuel (s.withRequests waiting arrivals) =
      some (result, final.withRequests left later) := by
  have hpressed : s.Pressed (s.withRequests waiting arrivals) := .of_waiting rfl hwaiting hmore
  have hruns : Option.Rel _ (setup.go fuel s) _ := hpressed.go fuel
  rw [h] at hruns
  generalize setup.go fuel (s.withRequests waiting arrivals) = ended at hruns
  cases hruns with
  | @some _ ended hended =>
      obtain ⟨result', final'⟩ := ended
      obtain ⟨rfl, ⟨left, later, rfl⟩, -⟩ := hended
      exact ⟨left, later, rfl⟩

end RunSweep
