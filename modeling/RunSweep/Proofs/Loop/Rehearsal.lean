import RunSweep.Loop.Rehearsal
import RunSweep.Proofs.Loop.Limit
import RunSweep.Proofs.Sweep.Clearing

/-!
# Rehearsals keep all their outputs

In a rehearsal every start of the stand-in writes its files under names that no other start uses, and the
sweep behind it clears the working directory. So the archive gathers the files of all iterations, and the
sums grow by the same numbers each time. `Rehearsal.Gathered` says what so many iterations leave in the
store, and `Rehearsal.Reached` where the loop stands after them.
-/

namespace RunSweep

/-! ## Iterations in a still world -/

section Still

variable {σ β : Type}

/-- A world in which no request waits and none is to arrive. -/
def World.still (store : σ) (launcher : β) : World σ β :=
  { store, launcher }

/-- In a still world nothing happens between two steps. -/
theorem Setup.step_of_act_still {setup : Setup σ β} {s s' : Session σ β}
    (hrunning : s.progress.phase = .running) (h : setup.act s = .next s') (hstill : s'.moment = s') :
    setup.step s = .next s' := by
  rw [step_of_act_next hrunning h, hstill]

/-- **An iteration in a still world**, of a program that ends at once, is tolerated and sends no
request: if its files can be swept, then it is completed. -/
theorem Setup.exists_iteration (setup : Setup σ β) {s : Session σ β} {t u v : σ} {b b' : β}
    {result : Except RunError ExitReport} {report : Report} (hactivity : s.activity = .check)
    (hrunning : s.progress.phase = .running) (hidle : s.progress.underWay = false)
    (hworld : s.world = .still t b)
    (hlaunch : setup.launcher.launch setup.command t b = .ended { store := u, launcher := b' } result)
    (htolerates : s.progress.plan.tolerates result = true)
    (hsweep : setup.sweeper.sweep setup.fileSystem u = (.ok report, v)) :
    ∃ s', setup.Leads s s' ∧ s'.activity = .check ∧ s'.world = .still v b' ∧
      s'.totals = s.totals.add report ∧ s'.progress = s.progress.finished := by
  obtain ⟨progress, world, totals, history, events, activity⟩ := s
  dsimp only at hactivity hrunning hidle hworld htolerates
  subst hactivity hworld
  -- no request is there, so the iteration is begun
  have hcheck : setup.step ⟨progress, .still t b, totals, history, events, .check⟩ =
      .next ⟨progress, .still t b, totals, history, events, .start⟩ :=
    step_of_act_still hrunning rfl rfl
  have hstart : setup.step ⟨progress, .still t b, totals, history, events, .start⟩ =
      .next ⟨{ progress with underWay := true }, .still t b, totals, history,
        events ++ [.invoked (progress.completed + 1) setup.command],
        .await (progress.completed + 1) (.ended { store := u, launcher := b' } result)⟩ := by
    rw [← hlaunch]
    exact step_of_act_still hrunning (start_of_idle hrunning hidle) rfl
  -- the program has ended, and its files are there to be swept
  have hawait (events : List Event) :
      setup.step ⟨{ progress with underWay := true }, .still t b, totals, history, events,
        .await (progress.completed + 1) (.ended { store := u, launcher := b' } result)⟩ =
          .next ⟨{ progress with underWay := true }, .still u b', totals, history,
            events ++ [.returned (progress.completed + 1) result],
            .sweep (progress.completed + 1) result.toOption⟩ := by
    refine step_of_act_still hrunning ?_ rfl
    rw [Setup.act]
    dsimp only
    rw [Session.await_of_tolerated rfl htolerates]
    rfl
  have hswept (events : List Event) (index : UInt64) (exit : Option ExitReport) :
      ∃ s', setup.step ⟨{ progress with underWay := true }, .still u b', totals, history, events,
          .sweep index exit⟩ = .next s' ∧ s'.activity = .check ∧ s'.world = .still v b' ∧
            s'.totals = totals.add report ∧ s'.progress = progress.finished :=
    ⟨_, step_of_act_still hrunning (sweep_of_listed hrunning rfl hsweep) rfl, rfl, rfl, rfl, rfl⟩
  obtain ⟨s', hlast, hs'⟩ := hswept _ _ _
  exact ⟨s', .head hcheck (.head hstart (.head (hawait _) (.single hlast))), hs'⟩

end Still

namespace Rehearsal

/-! ## Names of outputs -/

namespace StandIn

theorem toList_outputName (n : Nat) (name : String) :
    (outputName n name).toList = 'r' :: 'u' :: 'n' :: (Nat.toDigits 10 n ++ '_' :: name.toList) := by
  simp [outputName, String.toList_append, Nat.toString_eq_repr, Nat.toList_repr]

/-- **The names of outputs are told apart** by the start and by the end of the name. -/
theorem outputName_inj {n n' : Nat} {name name' : String} :
    outputName n name = outputName n' name' ↔ n = n' ∧ name = name' := by
  constructor
  · intro h
    have hlists := congrArg String.toList h
    simp only [toList_outputName, List.cons.injEq, true_and] at hlists
    -- the digits end where the underscore stands
    have hdigits (n : Nat) (rest : List Char) :
        (Nat.toDigits 10 n ++ '_' :: rest).takeWhile Char.isDigit = Nat.toDigits 10 n := by
      rw [List.takeWhile_append_of_pos
        fun c hc => Nat.isDigit_of_mem_toDigits (by decide) (by decide) hc]
      simp
    have hsame := congrArg (List.takeWhile Char.isDigit) hlists
    rw [hdigits, hdigits] at hsame
    rw [hsame, List.append_cancel_left_eq, List.cons.injEq] at hlists
    refine ⟨?_, String.toList_inj.mp hlists.2⟩
    calc n = Nat.ofDigitChars 10 (Nat.toDigits 10 n) 0 := Nat.ofDigitChars_ten_toDigits.symm
      _ = Nat.ofDigitChars 10 (Nat.toDigits 10 n') 0 := by rw [hsame]
      _ = n' := Nat.ofDigitChars_ten_toDigits
  · rintro ⟨rfl, rfl⟩
    rfl

/-- The name of an output is a name, unless there is a slash in its end. -/
theorem isName_outputName (n : Nat) {name : String} (h : '/' ∉ name.toList) :
    Path.IsName (Utf8.encode (outputName n name)) := by
  have hencoded : Utf8.encode (outputName n name) = Utf8.encode "run" ++
      (Utf8.encode (toString n) ++ (Utf8.encode "_" ++ Utf8.encode name)) := by
    simp only [outputName, Utf8.encode_append, List.append_assoc]
  have hstart : Utf8.encode "run" = [0x72, 0x75, 0x6E] := by decide
  constructor
  case no_slash =>
    rw [Path.slash_mem_encode, toList_outputName]
    simp only [List.mem_cons, List.mem_append]
    rintro (hr | hu | hn | hdigit | hmark | hname)
    · exact absurd hr (by decide)
    · exact absurd hu (by decide)
    · exact absurd hn (by decide)
    · exact absurd (Nat.isDigit_of_mem_toDigits (by decide) (by decide) hdigit) (by decide)
    · exact absurd hmark (by decide)
    · exact h hname
  all_goals
    rw [hencoded, hstart]
    simp [Path.dot]

/-- The files that a start writes. -/
def files (p : StandIn) (n : Nat) : List (String × UInt64) :=
  p.outputs.map fun output => (outputName n output.1, output.2)

theorem nodup_files {p : StandIn} (h : (p.outputs.map Prod.fst).Nodup) (n : Nat) :
    ((p.files n).map Prod.fst).Nodup := by
  have hmap : (p.files n).map Prod.fst = (p.outputs.map Prod.fst).map (outputName n) := by
    rw [files, List.map_map, List.map_map]
    rfl
  rw [hmap]
  exact h.map fun name name' heq => (outputName_inj.mp heq).2

end StandIn

/-! ## Writing the outputs -/

variable {s : Sweeper} {t u : Tree} {files : List (String × UInt64)}

/-- **A tree with more files in the working directory**, and otherwise as before. -/
structure Written (s : Sweeper) (files : List (String × UInt64)) (t u : Tree) : Prop where
  tended : s.Tended u
  holds : s.Holds files u
  archived : ∀ name, u.fileAt? (s.target name) = t.fileAt? (s.target name)
  listed : ∀ name ∈ t.namesAt s.archiveDir.components, name ∈ u.namesAt s.archiveDir.components

/-- One more file is written. -/
theorem Written.add (h : Written s files t u) (hapart : s.Apart) {path : Path} {name : String}
    (hname : Path.IsName (Utf8.encode name)) (hpath : path.components = s.source name)
    (hnew : name ∉ files.map Prod.fst) (len : UInt64) :
    Written s (files ++ [(name, len)]) t (u.addSizedFile path len) := by
  have hequiv : (u.addSizedFile path len).Equiv (u.withEntry (s.source name) (.file [] len)) :=
    Tree.addSizedFile_equiv hpath h.tended.working len
  have hfile (place : Place) : (u.addSizedFile path len).fileAt? place =
      if place = s.source name then some (.file [] len) else u.fileAt? place := by
    rw [hequiv.fileAt?_eq, Tree.fileAt?_withEntry _ _ _ rfl]
  have hlisted {dir : Place} {other : String} :
      other ∈ (u.addSizedFile path len).namesAt dir ↔
        other ∈ u.namesAt dir ∧ dir ≠ s.source name ∨
          s.source name = dir.child other ∧ u.kindAt? dir = some true := by
    rw [hequiv.namesAt_eq]
    exact Tree.mem_namesAt_withEntry (Place.titled_child _ name) rfl
  have hne : s.workingDir.components ≠ s.source name := Place.ne_child _ name
  constructor
  case tended =>
    refine (h.tended.write hapart hname rfl).congr hequiv ?_
    rw [Tree.addSizedFile, Tree.failing_addEntry, Tree.failing_withEntry]
  case holds =>
    constructor
    · intro file hmem
      rw [List.mem_append, List.mem_singleton] at hmem
      rcases hmem with hold | rfl
      · obtain ⟨hold_listed, hold_file⟩ := h.holds.listed file hold
        have hother : s.source file.1 ≠ s.source name := by
          intro heq
          exact hnew (Sweeper.source_injective heq ▸ List.mem_map_of_mem hold)
        rw [hfile, if_neg hother]
        exact ⟨hlisted.mpr (.inl ⟨hold_listed, hne⟩), hold_file⟩
      · rw [hfile, if_pos rfl]
        exact ⟨hlisted.mpr (.inr ⟨rfl, h.tended.working⟩), rfl⟩
    · intro other hnot
      rw [List.map_append, List.mem_append, not_or] at hnot
      have hother : s.source other ≠ s.source name := by
        intro heq
        obtain rfl := Sweeper.source_injective heq
        simp at hnot
      rw [hfile, if_neg hother]
      exact h.holds.others other hnot.1
  case archived =>
    intro other
    rw [hfile, if_neg (Sweeper.source_ne_target (Sweeper.dirs_ne hapart.archive)).symm]
    exact h.archived other
  case listed =>
    intro other hmem
    exact hlisted.mpr (.inl ⟨h.listed other hmem, Sweeper.archiveDir_ne_source hapart.archive⟩)

/-- **A start of the stand-in writes its files** into a working directory without any. -/
theorem written_writeOutputs (hapart : s.Apart) (ht : s.Tended t) (hholds : s.Holds [] t)
    {p : StandIn} (hout : p.outputDir.components = s.workingDir.components)
    (hnodup : (p.outputs.map Prod.fst).Nodup) (hslash : ∀ output ∈ p.outputs, '/' ∉ output.1.toList)
    (n : Nat) : Written s (p.files n) t (p.writeOutputs n t) := by
  have hstart : Written s [] t t := ⟨ht, hholds, fun _ => rfl, fun _ => id⟩
  have hfiles := StandIn.nodup_files hnodup n
  unfold StandIn.files at hfiles ⊢
  unfold StandIn.writeOutputs
  generalize p.outputs = outputs at hnodup hslash hfiles ⊢
  -- the files are written one after another
  induction outputs using List.reverseRecOn with
  | nil => exact hstart
  | append_singleton outputs output ih =>
      rw [List.map_append, List.map_append, List.nodup_append] at hfiles
      have hname := StandIn.isName_outputName n
        (hslash output (List.mem_append_right _ (List.mem_singleton_self _)))
      have hwritten := ih (by rw [List.map_append, List.nodup_append] at hnodup; exact hnodup.1)
        (fun other hother => hslash other (List.mem_append_left _ hother)) hfiles.1
      rw [List.foldl_append, List.map_append]
      refine hwritten.add hapart hname ?_ ?_ output.2
      · rw [Path.components_join _ hname, hout]
        rfl
      · intro hmem
        exact hfiles.2.2 _ hmem _ (List.mem_singleton_self _) rfl

/-! ## What iterations leave in the store -/

/-- **A stand-in that suits a configuration**: it can be started and sends no request, and it writes into
the working directory, under ends of names that differ and hold no slash. -/
structure StandIn.Suits (p : StandIn) (c : Config) : Prop where
  launches : p.launchFails = false
  silent : p.shutdownAfter = none
  outputDir : p.outputDir.components = c.sweep.workingDir.components
  distinct : (p.outputs.map Prod.fst).Nodup
  no_slash : ∀ output ∈ p.outputs, '/' ∉ output.1.toList

/-- How many of the files that a start writes are to be archived, or to be deleted. -/
def StandIn.count (p : StandIn) (c : Config) (disposition : Disposition) : Nat :=
  p.outputs.countP fun output => classify output.2 c.sweepThreshold = disposition

/-- **The store after `n` iterations** from the store `t`: no file is left in the working directory, the
archive has the files of every iteration, and what else it had. -/
structure Gathered (p : StandIn) (c : Config) (t : Tree) (n : Nat) (u : Tree) : Prop where
  tended : c.sweeper.Tended u
  holds : c.sweeper.Holds [] u
  arrived : ∀ k, 1 ≤ k → k ≤ n → ∀ output ∈ p.outputs,
    classify output.2 c.sweepThreshold = .archive →
      u.fileAt? (c.sweeper.target (StandIn.outputName k output.1)) = some (.file [] output.2) ∧
        StandIn.outputName k output.1 ∈ u.namesAt c.sweep.archiveDir.components
  kept : ∀ name, (∀ k, 1 ≤ k → k ≤ n → ∀ output ∈ p.outputs,
      classify output.2 c.sweepThreshold = .archive → name ≠ StandIn.outputName k output.1) →
    u.fileAt? (c.sweeper.target name) = t.fileAt? (c.sweeper.target name)

variable {p : StandIn} {c : Config} {n : Nat}

/-- **One more iteration**, whose sweep archives and deletes the files of this start and nothing else. -/
theorem Gathered.next (h : Gathered p c t n u) (hp : p.Suits c) (hapart : c.sweeper.Apart) :
    ∃ report v, c.sweeper.sweep Tree.fileSystem (p.writeOutputs (n + 1) u) = (.ok report, v) ∧
      report.archived.length = p.count c .archive ∧ report.deleted.length = p.count c .delete ∧
      report.failures = [] ∧ Gathered p c t (n + 1) v := by
  have hwritten := written_writeOutputs hapart h.tended h.holds hp.outputDir hp.distinct hp.no_slash
    (n + 1)
  obtain ⟨report, v, hsweep, hclears⟩ := hwritten.tended.exists_clear hapart
    (StandIn.nodup_files hp.distinct (n + 1)) hwritten.holds
  have hcount (disposition : Disposition) :
      ((p.files (n + 1)).countP fun file => classify file.2 c.sweeper.threshold = disposition) =
        p.count c disposition := by
    rw [StandIn.files, List.countP_map]
    rfl
  refine ⟨report, v, hsweep, hclears.archived.trans (hcount _), hclears.deleted.trans (hcount _),
    hclears.failures, ?_⟩
  constructor
  case tended => exact hclears.tended
  case holds => exact hclears.holds
  case arrived =>
    intro k hpos hle output houtput hclass
    rcases Nat.lt_or_eq_of_le hle with hlt | rfl
    -- a file of an earlier iteration has another name than those of this one
    · obtain ⟨hfile, hlisted⟩ := h.arrived k hpos (Nat.le_of_lt_succ hlt) output houtput hclass
      have hother : ∀ file ∈ p.files (n + 1), classify file.2 c.sweeper.threshold = .archive →
          StandIn.outputName k output.1 ≠ file.1 := by
        rintro file hmem - heq
        obtain ⟨output', -, rfl⟩ := List.mem_map.mp hmem
        exact Nat.ne_of_lt hlt (StandIn.outputName_inj.mp heq).1
      rw [hclears.kept _ hother, hwritten.archived]
      exact ⟨hfile, hclears.listed _ (hwritten.listed _ hlisted)⟩
    · have hfile : (StandIn.outputName (n + 1) output.1, output.2) ∈ p.files (n + 1) :=
        List.mem_map.mpr ⟨output, houtput, rfl⟩
      have harrived := hclears.arrived _ hfile
      exact harrived hclass
  case kept =>
    intro name hname
    have hother : ∀ file ∈ p.files (n + 1), classify file.2 c.sweeper.threshold = .archive →
        name ≠ file.1 := by
      rintro file hmem hclass
      obtain ⟨output, houtput, rfl⟩ := List.mem_map.mp hmem
      exact hname (n + 1) (Nat.le_add_left 1 n) le_rfl output houtput hclass
    rw [hclears.kept name hother, hwritten.archived]
    exact h.kept name fun k hpos hle => hname k hpos (Nat.le_succ_of_le hle)

/-! ## Iterations of the loop -/

/-- **Where the loop stands after `n` iterations**: it is about to look for a request, and the sums are
`n` times those of one iteration. -/
structure Reached (p : StandIn) (c : Config) (t : Tree) (n : Nat) (s : Session Tree Nat) : Prop where
  activity : s.activity = .check
  world : ∃ u, s.world = .still u n ∧ Gathered p c t n u
  totals : s.totals =
    { archived := n * p.count c .archive, deleted := n * p.count c .delete, failures := 0 }
  plan : s.progress.plan = c.plan
  completed : s.progress.completed = .ofNat n
  idle : s.progress.underWay = false

/-- The loop of a rehearsal. -/
def loop (p : StandIn) (c : Config) (keepHistory : Bool) : Setup Tree Nat :=
  c.setup Tree.fileSystem p.launcher keepHistory

variable {s : Session Tree Nat} (keepHistory : Bool)

/-- Before the first iteration. -/
theorem Reached.fresh (p : StandIn) (ht : c.sweeper.Tended t)
    (hempty : ∀ name, t.fileAt? (c.sweeper.source name) = none) :
    Reached p c t 0 (.fresh c.plan (.still t 0)) where
  activity := rfl
  world :=
    ⟨t, rfl,
      { tended := ht
        holds := .of_no_file hempty
        arrived := fun _ hpos hle => absurd (hpos.trans hle) (by decide)
        kept := fun _ _ => rfl }⟩
  totals := by rw [Nat.zero_mul, Nat.zero_mul]; rfl
  plan := rfl
  completed := rfl
  idle := rfl

/-- What is told at the end, if the loop stops at its limit. -/
theorem Reached.summary_eq {limit : UInt64} (h : Reached p c t limit.toNat s)
    (hreason : s.progress.stopReason = some .iterationLimit) :
    s.summary =
      { iterations := limit
        stopReason := .iterationLimit
        totals :=
          { archived := limit.toNat * p.count c .archive
            deleted := limit.toNat * p.count c .delete
            failures := 0 } } := by
  rw [Session.summary, hreason, h.completed, h.totals, UInt64.ofNat_toNat]
  rfl

/-- A start of the stand-in ends at once. -/
theorem StandIn.Suits.launch (hp : p.Suits c) (command : Command) (t : Tree) (n : Nat) :
    p.launcher.launch command t n =
      .ended { store := p.writeOutputs (n + 1) t, launcher := n + 1 } (.ok p.exit) := by
  unfold StandIn.launcher
  dsimp only
  rw [hp.launches, hp.silent]
  rfl

/-- **One more iteration of the loop.** -/
theorem Reached.next (h : Reached p c t n s) (hp : p.Suits c) (hapart : c.sweeper.Apart)
    (hrunning : s.progress.phase = .running) (hreason : s.progress.stopReason = none) :
    ∃ s', (loop p c keepHistory).Leads s s' ∧ Reached p c t (n + 1) s' ∧
      s'.progress = s.progress.finished := by
  obtain ⟨u, hworld, hgathered⟩ := h.world
  obtain ⟨report, v, hsweep, harchived, hdeleted, hfailures, hnext⟩ := hgathered.next hp hapart
  obtain ⟨s', hleads, hactivity, hworld', htotals, hprogress⟩ :=
    (loop p c keepHistory).exists_iteration h.activity hrunning h.idle hworld
      (hp.launch c.command u n) rfl hsweep
  obtain ⟨hplan, hcompleted, hidle, -⟩ := Progress.finished_cases hrunning hreason
  refine ⟨s', hleads, ⟨hactivity, ⟨v, hworld', hnext⟩, ?_, ?_, ?_, ?_⟩, hprogress⟩
  · rw [htotals, h.totals, Totals.add, harchived, hdeleted, hfailures]
    simp only [Nat.succ_mul, List.length_nil, Nat.add_zero]
  · rw [hprogress, hplan, h.plan]
  · rw [hprogress, hcompleted, h.completed, UInt64.ofNat_add]
    rfl
  · rw [hprogress, hidle]

/-- **All iterations of the loop**, up to its limit. -/
theorem Reached.exists_end (h : Reached p c t n s) (hp : p.Suits c) (hapart : c.sweeper.Apart)
    {limit : UInt64} (hlimit : c.plan.limit = some limit) (hrunning : s.progress.phase = .running)
    (hreason : s.progress.stopReason = none) (hlt : n < limit.toNat) :
    ∃ s', (loop p c keepHistory).Leads s s' ∧ Reached p c t limit.toNat s' ∧
      s'.progress.phase = .stopped ∧ s'.progress.stopReason = some .iterationLimit := by
  -- one iteration fewer is left each time
  induction hleft : limit.toNat - n generalizing n s with
  | zero => omega
  | succ left ih =>
      obtain ⟨s', hleads, hreached, hprogress⟩ :=
        h.next keepHistory hp hapart hrunning hreason
      have hcompleted : (s.progress.completed + 1).toNat = n + 1 := by
        rw [h.completed]
        exact toNat_ofNat_add_one hlt
      obtain ⟨-, -, -, hstopped⟩ := Progress.finished_cases hrunning hreason
      rw [h.plan, ← hprogress] at hstopped
      rcases hstopped with ⟨⟨limit', hlimit', hle⟩, hphase, hat⟩ | ⟨hbelow, hphase, hnone⟩
      · obtain rfl := Option.some.inj (hlimit.symm.trans hlimit')
        rw [UInt64.le_iff_toNat_le, hcompleted] at hle
        have hexact : n + 1 = limit.toNat := by omega
        exact ⟨s', hleads, hexact ▸ hreached, hphase, hat⟩
      · have hlt' := UInt64.lt_iff_toNat_lt.mp (hbelow limit hlimit)
        rw [hcompleted] at hlt'
        obtain ⟨final, hleads', hend⟩ := ih hreached hphase hnone hlt' (by omega)
        exact ⟨final, hleads.trans hleads', hend⟩

/-! ## A whole rehearsal -/

/-- **No iteration of a rehearsal overwrites the files of another.** Take a configuration with a number of
iterations and a stand-in that suits it, and a store that edits lead to, in which nothing is to fail, the
working directory is there without files, and the archive directory is there or can be made, neither
inside the other. If no request is sent, the run ends at its limit, and its sums count all files that
were written. Then the working directory holds no file, and the archive holds and lists the files of all
iterations, while every other file in it is as it was. -/
theorem rehearsal_keeps_outputs (c : Config) (p : StandIn) (keepHistory : Bool) (hp : p.Suits c)
    {limit : UInt64} (hlimit : c.repetition.maxIterations = some limit)
    (hrepeats : c.repetition.singleShot = false) {t : Tree} (ht : t.Reachable) (hfailing : t.failing = [])
    (hworking : t.isDir c.sweep.workingDir = true)
    (hempty : ∀ name, t.fileAt? (c.sweeper.source name) = none)
    (harchive : t.isDir c.sweep.archiveDir = true ∨
      t.contains c.sweep.archiveDir = false ∧ c.sweep.createArchiveDir = true)
    (hapart : c.sweeper.Apart) :
    ∃ fuel final,
      (c.setup Tree.fileSystem p.launcher keepHistory).run fuel (.fresh c.plan (.still t 0)) =
        some (.ok
          { iterations := limit
            stopReason := .iterationLimit
            totals :=
              { archived := limit.toNat * p.count c .archive
                deleted := limit.toNat * p.count c .delete
                failures := 0 } }, final) ∧
      (∀ name, final.world.store.fileAt? (c.sweeper.source name) = none) ∧
      (∀ k, 1 ≤ k → k ≤ limit.toNat → ∀ output ∈ p.outputs,
        classify output.2 c.sweepThreshold = .archive →
          final.world.store.find? (c.sweeper.target (StandIn.outputName k output.1)) =
              some (.file [] output.2) ∧
            StandIn.outputName k output.1 ∈ final.world.store.list c.sweep.archiveDir) ∧
      ∀ name, (∀ k, 1 ≤ k → k ≤ limit.toNat → ∀ output ∈ p.outputs,
          classify output.2 c.sweepThreshold = .archive → name ≠ StandIn.outputName k output.1) →
        final.world.store.fileAt? (c.sweeper.target name) = t.fileAt? (c.sweeper.target name) := by
  have hplan : c.plan.limit = some limit := by
    show c.iterationLimit = _
    rw [Config.iterationLimit, hrepeats, if_neg Bool.false_ne_true, hlimit]
  have hpos : 0 < limit.toNat := by
    rw [Nat.pos_iff_ne_zero]
    intro hzero
    obtain rfl : limit = 0 := UInt64.toNat_inj.mp hzero
    exact c.iterationLimit_ne_zero hplan
  have htended : c.sweeper.Tended t := by
    refine .of_reachable ht hfailing (Tree.isDir_iff.mp hworking) ?_
    exact harchive.imp Tree.isDir_iff.mp (And.imp_left Tree.contains_eq_false_iff.mp)
  obtain ⟨final, hleads, hend, hphase, hreason⟩ :=
    (Reached.fresh p htended hempty).exists_end keepHistory hp hapart hplan rfl rfl hpos
  obtain ⟨fuel, hrun⟩ :=
    Setup.ends_of_leads hleads (Setup.ends_of_done (Setup.step_of_stopped hphase))
  obtain ⟨u, hworld, hgathered⟩ := hend.world
  have hstore : final.world.store = u := congrArg World.store hworld
  refine ⟨fuel, final, hend.summary_eq hreason ▸ hrun, ?_, ?_, ?_⟩
  · intro name
    rw [hstore]
    exact hgathered.holds.others name List.not_mem_nil
  · intro k hone hle output houtput hclass
    obtain ⟨hfile, hlisted⟩ := hgathered.arrived k hone hle output houtput hclass
    rw [hstore]
    exact ⟨(Tree.fileAt?_eq_some.mp hfile).1, Tree.mem_list_iff_namesAt.mpr hlisted⟩
  · intro name hname
    rw [hstore]
    exact hgathered.kept name hname

/-- A stand-in that writes a large file and a small one. -/
def twoOutputs : StandIn :=
  { outputs := [("x.dat", 500000000), ("y.dat", 1)] }

theorem twoOutputs_suits : twoOutputs.Suits threefold :=
  ⟨rfl, rfl, rfl, by decide, by decide⟩

theorem twoOutputs_count :
    twoOutputs.count threefold .archive = 1 ∧ twoOutputs.count threefold .delete = 1 ∧
      classify 500000000 threefold.sweepThreshold = .archive := by
  decide +kernel

theorem tree_reachable : tree.Reachable :=
  (Tree.Reachable.empty.edit (.addDir workingDir) (by rintro _ ⟨⟩; exact ⟨_, rfl⟩)).edit
    (.addDir archiveDir) (by rintro _ ⟨⟩; exact ⟨_, rfl⟩)

/-- Three large files are archived and three small ones deleted, and none is overwritten. -/
theorem threefold_keeps_outputs :
    ∃ fuel final,
      (threefold.setup Tree.fileSystem twoOutputs.launcher true).run fuel
          (.fresh threefold.plan (.still tree 0)) =
        some (.ok
          { iterations := 3
            stopReason := .iterationLimit
            totals := { archived := 3, deleted := 3, failures := 0 } }, final) ∧
      ∀ k, 1 ≤ k → k ≤ 3 → final.world.store.find?
        (threefold.sweeper.target (StandIn.outputName k "x.dat")) = some (.file [] 500000000) := by
  obtain ⟨harchive, hdelete, hclass⟩ := twoOutputs_count
  have hnone (name : String) : tree.fileAt? (threefold.sweeper.source name) = none := by
    simp [tree, Tree.addDir]
  have hapart : threefold.sweeper.Apart := ⟨by decide +kernel, by decide +kernel⟩
  have hdirs : tree.isDir threefold.sweep.workingDir = true ∧
      tree.isDir threefold.sweep.archiveDir = true := by
    decide +kernel
  obtain ⟨fuel, final, hrun, -, harrived, -⟩ :=
    rehearsal_keeps_outputs threefold twoOutputs true twoOutputs_suits rfl rfl tree_reachable
      (by decide +kernel) hdirs.1 hnone (.inl hdirs.2) hapart
  rw [harchive, hdelete] at hrun
  refine ⟨fuel, final, hrun, fun k hone hle => ?_⟩
  exact (harrived k hone hle ("x.dat", 500000000) List.mem_cons_self hclass).1

end Rehearsal

end RunSweep
