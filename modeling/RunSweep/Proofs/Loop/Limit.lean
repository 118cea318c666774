import RunSweep.Proofs.Loop.Faults

/-!
# The limit on iterations

A loop stops at its limit as soon as so many iterations are complete, and only then says that it did.
`Capped` is the invariant. A run that nothing disturbs gets through one iteration after another, and so
comes to its limit. The limit of a configuration is not zero, since validation refuses that.
-/

namespace RunSweep

/-! ## The limit of a configuration -/

theorem Draft.checkRepetition_of_check {d : Draft} (h : d.check = .ok ()) :
    d.checkRepetition = .ok () := by
  unfold Draft.check at h
  rcases hthresholds : d.checkThresholds with rule | _
  · rw [hthresholds] at h
    cases h
  rcases hacquisition : d.checkAcquisition with rule | _
  · rw [hthresholds, hacquisition] at h
    cases h
  rcases hdirectories : d.checkDirectories with rule | _
  · rw [hthresholds, hacquisition, hdirectories] at h
    cases h
  rw [hthresholds, hacquisition, hdirectories] at h
  exact h

/-- **The limit of a configuration is not zero.** -/
theorem Config.iterationLimit_ne_zero (c : Config) : c.iterationLimit ≠ some 0 := by
  intro hzero
  unfold Config.iterationLimit at hzero
  split at hzero
  · cases hzero
  · have hrepetition := Draft.checkRepetition_of_check c.valid
    unfold Draft.checkRepetition at hrepetition
    rw [if_pos hzero] at hrepetition
    cases hrepetition

variable {σ β : Type}

/-! ## The limit is kept -/

/-- **The limit and the number of complete iterations**: they are equal if the loop has stopped at the
limit, and else fewer are complete. -/
structure Capped (plan : Plan) (s : Session σ β) : Prop where
  below : s.progress.stopReason ≠ some .iterationLimit →
    ∀ limit, plan.limit = some limit → s.events.countP Event.completes < limit.toNat
  reached : s.progress.stopReason = some .iterationLimit →
    ∃ limit, plan.limit = some limit ∧ s.events.countP Event.completes = limit.toNat

/-- Counting one more does not wrap around below a limit. -/
theorem toNat_ofNat_add_one {n : Nat} {limit : UInt64} (h : n < limit.toNat) :
    (UInt64.ofNat n + 1).toNat = n + 1 := by
  have hsize := limit.toNat_lt
  rw [UInt64.toNat_add, UInt64.toNat_ofNat', UInt64.toNat_one]
  omega

namespace Capped

variable {setup : Setup σ β} {plan : Plan} {world : World σ β} {rounds : List Round}
  {s t : Session σ β}

theorem fresh (hlimit : plan.limit ≠ some 0) (world : World σ β) :
    Capped plan (Session.fresh plan world) := by
  refine ⟨fun _ limit h => ?_, nofun⟩
  apply Nat.pos_of_ne_zero
  intro hzero
  exact hlimit (h.trans (congrArg some (UInt64.toNat_inj.mp hzero)))

/-- Requests that arrive change nothing about the limit. -/
theorem moment (h : Capped plan s) : Capped plan s.moment :=
  ⟨h.below, h.reached⟩

/-- Neither does what completes no iteration, unless the loop says that it is at the limit. -/
theorem of_same (h : Capped plan s) (hbefore : s.progress.stopReason ≠ some .iterationLimit)
    (hafter : t.progress.stopReason ≠ some .iterationLimit) {events : List Event}
    (hevents : t.events = s.events ++ events)
    (hnone : ∀ index report, .swept index (.ok report) ∉ events) : Capped plan t := by
  have hcount : events.countP Event.completes = 0 := by
    rw [List.countP_eq_zero]
    intro event hevent hcompletes
    unfold Event.completes at hcompletes
    split at hcompletes
    · exact hnone _ _ hevent
    · cases hcompletes
  refine ⟨fun _ limit hlimit => ?_, fun hreason => absurd hreason hafter⟩
  rw [hevents, List.countP_append, hcount]
  exact h.below hbefore limit hlimit

/-- **The limit is kept by what is done next**: by one more iteration as well. -/
theorem of_move (h : Capped plan s) (hledger : Ledger setup plan rounds s)
    (hrunning : s.progress.phase = .running) {step : Step σ β} (hmove : Move s step) :
    Capped plan step.session := by
  have hreason := hledger.stopReason_of_running hrunning
  have hbefore : s.progress.stopReason ≠ some .iterationLimit := by rw [hreason]; decide
  cases hmove with
  | goesOn hsame hevents hnone => exact h.of_same hbefore (hsame ▸ hbefore) hevents hnone
  | @shutdown t events hprogress hevents hnone =>
      refine h.of_same hbefore ?_ hevents hnone
      show (t.progress.stop .shutdownRequested).stopReason ≠ _
      rw [hprogress, Progress.stopReason_stop hreason]
      decide
  | @fails t events e hprogress hevents hnone =>
      refine h.of_same hbefore ?_ hevents hnone
      show (t.progress.stop .fault).stopReason ≠ _
      rw [hprogress, Progress.stopReason_stop hreason]
      decide
  | @completes t index report hprogress hevents =>
      have hcount : t.events.countP Event.completes = rounds.length + 1 := by
        rw [hevents, List.countP_append, hledger.completions]
        rfl
      obtain ⟨-, -, -, hstopped⟩ := Progress.finished_cases hrunning hreason
      rw [hledger.plan_eq, hledger.completed, ← hprogress] at hstopped
      have hbelow := h.below hbefore
      rw [hledger.completions] at hbelow
      rcases hstopped with ⟨⟨limit, hlimit, hle⟩, -, hat⟩ | ⟨hlt, -, hnone⟩
      -- as fewer were complete before, the limit is met exactly
      · have hexact : rounds.length + 1 = limit.toNat := by
          have hle' := UInt64.le_iff_toNat_le.mp hle
          rw [toNat_ofNat_add_one (hbelow limit hlimit)] at hle'
          exact Nat.le_antisymm (hbelow limit hlimit) hle'
        exact ⟨fun hreason' => absurd hat hreason', fun _ => ⟨limit, hlimit, hcount.trans hexact⟩⟩
      · refine ⟨fun _ limit hlimit => ?_, fun hreason' => absurd (hnone.symm.trans hreason') (by decide)⟩
        have hlt' := UInt64.lt_iff_toNat_lt.mp (hlt limit hlimit)
        rw [toNat_ofNat_add_one (hbelow limit hlimit)] at hlt'
        exact hcount ▸ hlt'

/-- **Every step keeps the limit.** -/
theorem step (h : Capped plan s) (hledger : Ledger setup plan rounds s) :
    Capped plan (setup.step s).session :=
  Setup.step_preserves (motive := Capped plan) h (fun _ => moment) fun hrunning =>
    h.of_move hledger hrunning (hledger.move hrunning)

/-- A step of a run keeps the limit, as the session before has an account. -/
theorem step_of_leads (hleads : setup.Leads (.fresh plan world) s) (h : Capped plan s) :
    Capped plan (setup.step s).session := by
  obtain ⟨rounds, hledger⟩ := Setup.exists_ledger hleads
  exact h.step hledger

theorem of_leads (hlimit : plan.limit ≠ some 0) (h : setup.Leads (.fresh plan world) s) :
    Capped plan s :=
  Setup.leads_preserves (motive := Capped plan) (fresh hlimit world)
    (fun _ hleads hs => hs.step_of_leads hleads) h

theorem of_ends (hlimit : plan.limit ≠ some 0) {result : Except RunError Summary}
    (h : setup.Ends (.fresh plan world) result s) : Capped plan s :=
  Setup.ends_preserves (motive := Capped plan) (fresh hlimit world)
    (fun _ hleads hs => hs.step_of_leads hleads) h

end Capped

namespace Ledger

variable {setup : Setup σ β} {plan : Plan} {rounds : List Round} {s : Session σ β}

/-- A loop that has stopped at its limit leaves no iteration incomplete. -/
theorem events_of_limit (h : Ledger setup plan rounds s)
    (hreason : s.progress.stopReason = some .iterationLimit) :
    s.events = Round.trace setup.command rounds := by
  obtain ⟨rest, hevents, hrest⟩ := h.events
  rw [hreason] at hrest
  generalize s.activity = activity at hrest
  cases hrest
  rw [hevents, List.append_nil]

/-- **The program is started no more often than the limit says.** -/
theorem starts_le (h : Ledger setup plan rounds s) (hcapped : Capped plan s) {limit : UInt64}
    (hlimit : plan.limit = some limit) : s.events.countP Event.isStart ≤ limit.toNat := by
  by_cases hreason : s.progress.stopReason = some .iterationLimit
  · obtain ⟨limit', hlimit', hcount⟩ := hcapped.reached hreason
    obtain rfl := Option.some.inj (hlimit.symm.trans hlimit')
    rw [h.completions] at hcount
    rw [h.events_of_limit hreason, Round.countP_trace fun _ _ => rfl]
    exact Nat.le_of_eq hcount
  -- one iteration may be under way besides the complete ones
  · have hbelow := hcapped.below hreason limit hlimit
    rw [h.completions] at hbelow
    obtain ⟨rest, -, hstarts⟩ := h.exists_starts
    split_ifs at hstarts <;> omega

end Ledger

/-! ## The limit is reached -/

/-- **A run that nothing disturbs**: no request ever waits, every program that is started ends, and there
is no error. -/
structure Undisturbed (setup : Setup σ β) (plan : Plan) (world : World σ β) : Prop where
  quiet : ∀ s, setup.Leads (.fresh plan world) s → s.world.waiting = 0
  ends : ∀ s index course, setup.Leads (.fresh plan world) s →
    s.activity = .await index course → (course.follow s.world).1.isSome = true
  sound : ∀ s e final, setup.Leads (.fresh plan world) s → setup.step s ≠ .done (.error e) final

theorem World.receive_of_quiet {w : World σ β} (h : w.waiting = 0) : w.receive = (false, w) := by
  rw [receive, if_pos h]

namespace Undisturbed

variable {setup : Setup σ β} {plan : Plan} {world : World σ β} {s t : Session σ β}
  (h : Undisturbed setup plan world)

include h

/-- A program that is looked at is swept after, sooner or later. -/
theorem exists_sweep {index : UInt64} {course : Attempt σ β}
    (hleads : setup.Leads (.fresh plan world) s) (hactivity : s.activity = .await index course) :
    ∃ exit t, setup.Leads s t ∧ t.activity = .sweep index exit ∧ t.progress = s.progress := by
  induction course generalizing s with
  | ended stage result =>
      have hrunning := Setup.running_of_leads hleads (by simp [hactivity])
      have hact : setup.act s = s.await index (.ended stage result) := by rw [Setup.act, hactivity]
      by_cases htolerates : s.progress.plan.tolerates result = true
      · rw [Session.await_of_tolerated rfl htolerates] at hact
        exact ⟨_, _, .single (Setup.step_of_act_next hrunning hact), rfl, rfl⟩
      -- there is no error
      · cases result with
        | ok exit => exact absurd rfl htolerates
        | error e =>
            rw [Session.await_of_fatal rfl htolerates] at hact
            exact absurd (Setup.step_of_act_done hrunning hact) (h.sound _ _ _ hleads)
  | pending stage rest ih =>
      have hrunning := Setup.running_of_leads hleads (by simp [hactivity])
      have hact : setup.act s = s.await index (.pending stage rest) := by rw [Setup.act, hactivity]
      rw [Session.await_of_pending rfl] at hact
      -- the program is pending, and no request is there to be read
      obtain ⟨t, ht, hlisten, hprogress⟩ :
          ∃ t, setup.step s = .next t ∧ t.activity = .listen index rest ∧
            t.progress = s.progress :=
        ⟨_, Setup.step_of_act_next hrunning hact, rfl, rfl⟩
      have hact' : setup.act t = t.listen index rest := by rw [Setup.act, hlisten]
      rw [Session.listen, World.receive_of_quiet (h.quiet t (hleads.tail ht))] at hact'
      obtain ⟨u, hu, hawait, hprogress'⟩ :
          ∃ u, setup.step t = .next u ∧ u.activity = .await index rest ∧
            u.progress = t.progress :=
        ⟨_, Setup.step_of_act_next (hprogress ▸ hrunning) hact', rfl, rfl⟩
      obtain ⟨exit, v, hv, hsweep, hlast⟩ := ih ((hleads.tail ht).tail hu) hawait
      exact ⟨exit, v, .head ht (.head hu hv), hsweep, hlast.trans (hprogress'.trans hprogress)⟩
  | endless stages => exact absurd (h.ends _ _ _ hleads hactivity) Bool.false_ne_true

/-- **An iteration is completed.** -/
theorem exists_finished (hleads : setup.Leads (.fresh plan world) s)
    (hrunning : s.progress.phase = .running) (hactivity : s.activity = .check) :
    ∃ t, setup.Leads s t ∧ t.activity = .check ∧ t.progress = s.progress.finished := by
  have hidle : s.progress.underWay = false := by
    obtain ⟨rounds, hledger⟩ := Setup.exists_ledger hleads
    rw [hledger.underWay, hactivity]
    rfl
  -- there is no request, so the iteration is begun
  have hact : setup.act s = s.check := by rw [Setup.act, hactivity]
  rw [Session.check, World.receive_of_quiet (h.quiet s hleads)] at hact
  obtain ⟨t, ht, hstart, hprogress⟩ :
      ∃ t, setup.step s = .next t ∧ t.activity = .start ∧ t.progress = s.progress :=
    ⟨_, Setup.step_of_act_next hrunning hact, rfl, rfl⟩
  have hact' : setup.act t = setup.start t := by rw [Setup.act, hstart]
  rw [Setup.start_of_idle (hprogress ▸ hrunning) (hprogress ▸ hidle)] at hact'
  -- the program ends
  obtain ⟨u, hu, ⟨index, course, hawait⟩, hprogress'⟩ :
      ∃ u, setup.step t = .next u ∧ (∃ index course, u.activity = .await index course) ∧
        u.progress = { t.progress with underWay := true } :=
    ⟨_, Setup.step_of_act_next (hprogress ▸ hrunning) hact', ⟨_, _, rfl⟩, rfl⟩
  obtain ⟨exit, v, hv, hsweep, hlast⟩ := h.exists_sweep ((hleads.tail ht).tail hu) hawait
  have hbusy : v.progress = { s.progress with underWay := true } := by
    rw [hlast, hprogress', hprogress]
  have hsteps : setup.Leads s v := .head ht (.head hu hv)
  -- it is swept after
  have hact'' : setup.act v = setup.sweep v index exit := by rw [Setup.act, hsweep]
  have hrunning' : v.progress.phase = .running := hbusy ▸ hrunning
  rcases setup.sweep_cases v with ⟨report, store, hlisted⟩ | ⟨fault, store, hunlisted⟩
  · rw [Setup.sweep_of_listed hrunning' (hbusy ▸ rfl) hlisted] at hact''
    refine ⟨_, hsteps.tail (Setup.step_of_act_next hrunning' hact''), rfl, ?_⟩
    show v.progress.finished = s.progress.finished
    rw [hbusy]
    rfl
  · rw [Setup.sweep_of_unlisted hunlisted] at hact''
    exact absurd (Setup.step_of_act_done hrunning' hact'') (h.sound _ _ _ (hleads.trans hsteps))

/-- **The limit is reached**, from any session that is about to begin an iteration below it. -/
theorem exists_limit {limit : UInt64} (hlimit : plan.limit = some limit)
    (hleads : setup.Leads (.fresh plan world) s) (hrunning : s.progress.phase = .running)
    (hactivity : s.activity = .check) (hlt : s.progress.completed < limit) :
    ∃ t, setup.Leads (.fresh plan world) t ∧ t.progress.phase = .stopped ∧
      t.progress.stopReason = some .iterationLimit := by
  -- one iteration fewer is left to be completed each time
  induction hn : limit.toNat - s.progress.completed.toNat using Nat.strongRecOn generalizing s with
  | ind n ih =>
      obtain ⟨rounds, hledger⟩ := Setup.exists_ledger hleads
      obtain ⟨t, ht, hcheck, hprogress⟩ := h.exists_finished hleads hrunning hactivity
      obtain ⟨-, hcompleted, -, hstopped⟩ :=
        Progress.finished_cases hrunning (hledger.stopReason_of_running hrunning)
      rw [hledger.plan_eq, ← hprogress] at hstopped
      rcases hstopped with ⟨-, hphase, hreason⟩ | ⟨hbelow, hphase, -⟩
      · exact ⟨t, hleads.trans ht, hphase, hreason⟩
      · have hnext : t.progress.completed = s.progress.completed + 1 := hprogress ▸ hcompleted
        have hlt' : t.progress.completed < limit := hnext ▸ hbelow limit hlimit
        have hdecreases : limit.toNat - t.progress.completed.toNat < n := by
          have hbefore := UInt64.lt_iff_toNat_lt.mp hlt
          have hsize := limit.toNat_lt
          rw [hnext, UInt64.toNat_add, UInt64.toNat_one, ← hn]
          omega
        exact ih _ hdecreases (hleads.trans ht) hphase hcheck hlt' rfl

end Undisturbed

/-! ## The limit is exact -/

/-- **A run with a limit**: the program is started at most so often, the run only says that it has
reached the limit if so many iterations are complete, and it does reach the limit if nothing disturbs
it. -/
structure LimitedTo (setup : Setup σ β) (plan : Plan) (world : World σ β) (limit : UInt64) : Prop where
  starts : ∀ s, setup.Leads (.fresh plan world) s → s.events.countP Event.isStart ≤ limit.toNat
  finalStarts : ∀ fuel result final, setup.run fuel (.fresh plan world) = some (result, final) →
    final.events.countP Event.isStart ≤ limit.toNat
  completions : ∀ fuel summary final,
    setup.run fuel (.fresh plan world) = some (.ok summary, final) →
      summary.stopReason = .iterationLimit →
        final.events.countP Event.completes = limit.toNat ∧ summary.iterations = limit
  exact : Undisturbed setup plan world →
    ∃ fuel totals final, setup.run fuel (.fresh plan world) =
        some (.ok { iterations := limit, stopReason := .iterationLimit, totals }, final) ∧
      final.events.countP Event.isStart = limit.toNat ∧
        final.events.countP Event.isSweep = limit.toNat

namespace Setup

variable {setup : Setup σ β} {plan : Plan} {world : World σ β}

/-- A run that says it is at the limit has completed so many iterations. -/
theorem completions_of_limit (hlimit : plan.limit ≠ some 0) {summary : Summary} {final : Session σ β}
    (h : setup.Ends (.fresh plan world) (.ok summary) final)
    (hreason : summary.stopReason = .iterationLimit) :
    ∃ limit, plan.limit = some limit ∧ final.events.countP Event.completes = limit.toNat ∧
      summary.iterations = limit := by
  obtain ⟨reason, hfinal, hsummary⟩ := exists_reason h
  obtain ⟨hiterations, rfl⟩ := hsummary summary rfl
  obtain ⟨⟨rounds, hledger⟩, -, -⟩ := exists_ledger_of_ends h
  obtain ⟨limit, hsome, hcount⟩ := (Capped.of_ends hlimit h).reached (hreason ▸ hfinal)
  refine ⟨limit, hsome, hcount, ?_⟩
  rw [hiterations, hledger.completed, ← hledger.completions, hcount, UInt64.ofNat_toNat]

/-- **A run keeps to its limit and gets there.** -/
theorem limitedTo {limit : UInt64} (hlimit : plan.limit = some limit) (hpos : limit ≠ 0) :
    LimitedTo setup plan world limit := by
  have hne : plan.limit ≠ some 0 := by simpa [hlimit] using hpos
  constructor
  case starts =>
    intro s hleads
    obtain ⟨rounds, hledger⟩ := exists_ledger hleads
    exact hledger.starts_le (.of_leads hne hleads) hlimit
  case finalStarts =>
    intro fuel result final hrun
    have hends : setup.Ends (.fresh plan world) result final := ⟨fuel, hrun⟩
    obtain ⟨⟨rounds, hledger⟩, -, -⟩ := exists_ledger_of_ends hends
    exact hledger.starts_le (.of_ends hne hends) hlimit
  case completions =>
    intro fuel summary final hrun hreason
    obtain ⟨limit', hlimit', hcounts⟩ := completions_of_limit hne ⟨fuel, hrun⟩ hreason
    obtain rfl := Option.some.inj (hlimit.symm.trans hlimit')
    exact hcounts
  case exact =>
    intro h
    obtain ⟨final, hleads, hphase, hreason⟩ :=
      h.exists_limit hlimit .refl rfl rfl (UInt64.pos_iff_ne_zero.mpr hpos)
    obtain ⟨rounds, hledger⟩ := exists_ledger hleads
    obtain ⟨limit', hlimit', hcount⟩ := (Capped.of_leads hne hleads).reached hreason
    obtain rfl := Option.some.inj (hlimit.symm.trans hlimit')
    rw [hledger.completions] at hcount
    obtain ⟨fuel, hrun⟩ := ends_of_leads hleads (ends_of_done (step_of_stopped hphase))
    have hsummary : final.summary =
        { iterations := limit, stopReason := .iterationLimit, totals := final.totals } := by
      rw [Session.summary, hreason, hledger.completed, hcount, UInt64.ofNat_toNat]
      rfl
    refine ⟨fuel, final.totals, final, hsummary ▸ hrun, ?_, ?_⟩
    · rw [hledger.events_of_limit hreason, Round.countP_trace (fun _ _ => rfl), hcount]
    · rw [hledger.events_of_limit hreason, Round.countP_trace (fun _ _ => rfl), hcount]

end Setup

/-- **The limit of a configuration is exact.** It is one in single-shot mode, and else as configured. A
run of the loop that the configuration describes keeps to it, whatever the program does and whenever
requests arrive; and without a limit, no run says that it has reached one. -/
theorem iteration_limit_exact (c : Config) (fileSystem : FileSystem σ) (launcher : Launcher σ β)
    (keepHistory : Bool) (world : World σ β) :
    (∀ limit, c.iterationLimit = some limit →
        (c.repetition.singleShot = true → limit = 1) ∧
          (c.repetition.singleShot = false → c.repetition.maxIterations = some limit) ∧
          LimitedTo (c.setup fileSystem launcher keepHistory) c.plan world limit) ∧
      (c.iterationLimit = none → ∀ fuel summary final,
        (c.setup fileSystem launcher keepHistory).run fuel (.fresh c.plan world) =
            some (.ok summary, final) →
          summary.stopReason ≠ .iterationLimit) := by
  constructor
  · intro limit hlimit
    refine ⟨fun hsingle => ?_, fun hrepeated => ?_, Setup.limitedTo hlimit fun hzero => ?_⟩
    · rw [Config.iterationLimit, if_pos hsingle] at hlimit
      exact (Option.some.inj hlimit).symm
    · rw [Config.iterationLimit, if_neg (Bool.eq_false_iff.mp hrepeated)] at hlimit
      exact hlimit
    · exact c.iterationLimit_ne_zero (hzero ▸ hlimit)
  · intro hnone fuel summary final hrun hreason
    have hplan : c.plan.limit = none := hnone
    obtain ⟨limit, hlimit, -⟩ :=
      Setup.completions_of_limit (by simp [hplan]) ⟨fuel, hrun⟩ hreason
    rw [hplan] at hlimit
    cases hlimit

/-! ## A run that is seen to be undisturbed -/

/-- Whether nothing disturbs a session: no request waits, and a program that is looked at ends. -/
def Session.isCalm (s : Session σ β) : Bool :=
  s.world.waiting == 0 &&
    match s.activity with
    | .await _ course => (course.follow s.world).1.isSome
    | _ => true

namespace Setup

/-- Whether a run ends within so many steps, without an error and without anything that disturbs it. -/
def runsCalmly (setup : Setup σ β) : Nat → Session σ β → Bool
  | 0, _ => false
  | fuel + 1, s =>
      s.isCalm &&
        match setup.step s with
        | .next t => setup.runsCalmly fuel t
        | .done (.ok _) _ => true
        | .done (.error _) _ => false

variable {setup : Setup σ β} {s t : Session σ β}

/-- What is seen of a run holds of every session that it goes through. -/
theorem calm_of_leads {fuel : Nat} (h : setup.runsCalmly fuel s = true) (hleads : setup.Leads s t) :
    t.isCalm = true ∧ ∀ e final, setup.step t ≠ .done (.error e) final := by
  induction fuel generalizing s with
  | zero => cases h
  | succ fuel ih =>
      rw [runsCalmly, Bool.and_eq_true] at h
      obtain ⟨hcalm, hrest⟩ := h
      rcases Relation.ReflTransGen.cases_head hleads with rfl | ⟨u, hstep, hleads⟩
      · refine ⟨hcalm, fun e final hdone => ?_⟩
        rw [hdone] at hrest
        cases hrest
      · rw [hstep] at hrest
        exact ih hrest hleads

/-- **A run that is seen to be calm is undisturbed.** -/
theorem undisturbed_of_runsCalmly {plan : Plan} {world : World σ β} {fuel : Nat}
    (h : setup.runsCalmly fuel (.fresh plan world) = true) : Undisturbed setup plan world := by
  constructor
  case quiet =>
    intro s hleads
    have hcalm := (calm_of_leads h hleads).1
    rw [Session.isCalm, Bool.and_eq_true, beq_iff_eq] at hcalm
    exact hcalm.1
  case ends =>
    intro s index course hleads hactivity
    have hcalm := (calm_of_leads h hleads).1
    rw [Session.isCalm, Bool.and_eq_true, hactivity] at hcalm
    exact hcalm.2
  case sound => exact fun s e final hleads => (calm_of_leads h hleads).2 e final

end Setup

theorem threeStarts_undisturbed :
    Undisturbed scripted Rehearsal.threefold.plan (scriptedWorld threeStarts) := by
  have hcalm : scripted.runsCalmly 17
      (.fresh Rehearsal.threefold.plan (scriptedWorld threeStarts)) = true := by
    decide +kernel
  exact Setup.undisturbed_of_runsCalmly hcalm

/-- The program is started three times and three sweeps are made, and then the loop stops. -/
theorem threeStarts_reach_limit :
    LimitedTo scripted Rehearsal.threefold.plan (scriptedWorld threeStarts) 3 ∧
      ∃ fuel totals final,
        scripted.run fuel (.fresh Rehearsal.threefold.plan (scriptedWorld threeStarts)) =
            some (.ok { iterations := 3, stopReason := .iterationLimit, totals }, final) ∧
          final.events.countP Event.isStart = 3 ∧ final.events.countP Event.isSweep = 3 := by
  obtain ⟨hlimited, -⟩ :=
    iteration_limit_exact Rehearsal.threefold Tree.fileSystem (Script.launcher Tree.scripted) true
      (scriptedWorld threeStarts)
  obtain ⟨-, -, h⟩ := hlimited 3 rfl
  exact ⟨h, h.exact threeStarts_undisturbed⟩

end RunSweep
