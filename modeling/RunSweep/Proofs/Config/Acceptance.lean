import RunSweep.Proofs.Config.Precedence
import RunSweep.Proofs.Decimal.Value
import RunSweep.Proofs.Path.Sameness

/-!
# Which configurations are accepted

`Draft.Acceptable` says what is asked of a draft: of its numbers as numbers, and of its directories as
places, whatever way they are written. `Draft.requirements` lists the same in the order in which it is
asked, each requirement with the error that reports that it is not met.

`Checks` is what it comes to to go through such a list: the first requirement that is not met is reported,
if there is one. The checks of a draft go through its requirements, stretch by stretch. So a draft that is
acceptable becomes the configuration as it is, and of any other the first fault is reported.
-/

namespace RunSweep

/-! ## Going through requirements -/

/-- Something that is asked, and the error that reports that it is not so. -/
structure Requirement where
  holds : Prop
  report : Invalid

/-- **What it comes to to go through requirements.** -/
inductive Checks : List Requirement → Except Invalid Unit → Prop
  | nil : Checks [] (.ok ())
  | kept {r : Requirement} {rest : List Requirement} {outcome : Except Invalid Unit} (h : r.holds)
      (hrest : Checks rest outcome) : Checks (r :: rest) outcome
  | broken {r : Requirement} {rest : List Requirement} (h : ¬ r.holds) :
      Checks (r :: rest) (.error r.report)

namespace Checks

variable {rs rest rest' : List Requirement} {outcome x y : Except Invalid Unit} {holds : Prop}
  {report : Invalid} {bad : Prop} [Decidable bad]

/-- One requirement, and then others. -/
theorem next (hbad : bad ↔ ¬ holds) (hrest : Checks rest outcome) :
    Checks (⟨holds, report⟩ :: rest) (if bad then .error report else outcome) := by
  split_ifs with h
  · exact .broken (hbad.mp h)
  · exact .kept (not_not.mp fun hnot => h (hbad.mpr hnot)) hrest

theorem next_unless {good : Prop} [Decidable good] (hgood : good ↔ holds)
    (hrest : Checks rest outcome) :
    Checks (⟨holds, report⟩ :: rest) (if good then outcome else .error report) := by
  rw [← ite_not]
  exact next (not_congr hgood) hrest

/-- One stretch of requirements, and then another. -/
theorem append (hx : Checks rest x) (hy : Checks rest' y) :
    Checks (rest ++ rest') (x >>= fun _ => y) := by
  induction hx with
  | nil => exact hy
  | kept h _ ih => exact .kept h ih
  | broken h => exact .broken h

/-- **All is well exactly if all that is asked is so.** -/
theorem eq_ok_iff (h : Checks rs outcome) : outcome = .ok () ↔ ∀ r ∈ rs, r.holds := by
  induction h with
  | nil => simp
  | kept h _ ih => simp [ih, h]
  | broken h => simp [h]

/-- **What is reported is the first that is not so.** -/
theorem eq_error_iff (h : Checks rs outcome) {rule : Invalid} :
    outcome = .error rule ↔
      ∃ before r after, rs = before ++ r :: after ∧ (∀ earlier ∈ before, earlier.holds) ∧
        ¬ r.holds ∧ rule = r.report := by
  induction h with
  | nil => simp
  | @kept first rest outcome hholds _ ih =>
      rw [ih]
      constructor
      · rintro ⟨before, r, after, rfl, hbefore, hr⟩
        exact ⟨first :: before, r, after, rfl, by simpa [hholds] using hbefore, hr⟩
      · rintro ⟨_ | ⟨_, before⟩, r, after, hrs, hbefore, hr⟩
        · obtain ⟨rfl, rfl⟩ := List.cons.inj hrs
          exact absurd hholds hr.1
        · obtain ⟨rfl, rfl⟩ := List.cons.inj hrs
          exact ⟨before, r, after, rfl, fun r hmem => hbefore r (List.mem_cons_of_mem _ hmem), hr⟩
  | @broken first rest hbroken =>
      constructor
      · intro h
        exact ⟨[], first, rest, rfl, by simp, hbroken, (Except.error.inj h).symm⟩
      · rintro ⟨_ | ⟨_, before⟩, r, after, hrs, hbefore, hr, rfl⟩
        · rw [(List.cons.inj hrs).1]
        · obtain ⟨rfl, -⟩ := List.cons.inj hrs
          exact absurd (hbefore _ List.mem_cons_self) hbroken

end Checks

/-! ## What is asked of a draft -/

/-- A number, and one that is not below zero. -/
def NonNegative (x : Float) : Prop :=
  ∃ q : ℚ, (Binary64.ofFloat x).value? = some q ∧ 0 ≤ q

/-- A number without a fractional part. -/
def Whole (x : Float) : Prop :=
  ∃ k : ℤ, (Binary64.ofFloat x).value? = some (k : ℚ)

/-- A text in which something can be seen. -/
def Visible (text : String) : Prop :=
  ∃ c ∈ text.toList, isBlank c = false

/-- Two paths that say the same. -/
def SamePlace (p q : Path) : Prop :=
  p.isAbsolute = q.isAbsolute ∧ p.names = q.names

namespace Draft

/-- **A draft that has nothing wrong with it.** -/
structure Acceptable (d : Draft) : Prop where
  threshold : NonNegative d.acquisition.threshold
  whole : Whole d.acquisition.threshold
  sweepThreshold : ∀ x, d.sweep.threshold = some x → NonNegative x
  binary : d.acquisition.binary.bytes ≠ []
  duration : 1 ≤ d.acquisition.durationSecs
  runs : d.acquisition.nrun ≠ 0
  name : ∀ name, d.acquisition.name = some name → Visible name
  workingDir : d.sweep.workingDir.bytes ≠ []
  archiveDir : d.sweep.archiveDir.bytes ≠ []
  directories : ¬ SamePlace d.sweep.workingDir d.sweep.archiveDir
  iterations : d.repetition.maxIterations ≠ some 0

/-- What is asked of the thresholds. -/
def thresholdRequirements (d : Draft) : List Requirement :=
  [⟨NonNegative d.acquisition.threshold, .negativeThreshold .acquisition d.acquisition.threshold⟩,
    ⟨Whole d.acquisition.threshold, .fractionalThreshold d.acquisition.threshold⟩] ++
    d.sweep.threshold.toList.map fun x => ⟨NonNegative x, .negativeThreshold .sweep x⟩

/-- What is asked of the acquisition program and its arguments. -/
def acquisitionRequirements (d : Draft) : List Requirement :=
  [⟨d.acquisition.binary.bytes ≠ [], .emptyBinary⟩,
    ⟨1 ≤ d.acquisition.durationSecs, .zeroDuration⟩,
    ⟨d.acquisition.nrun ≠ 0, .zeroRuns⟩,
    ⟨∀ name, d.acquisition.name = some name → Visible name, .blankName⟩]

/-- What is asked of the two directories. -/
def directoryRequirements (d : Draft) : List Requirement :=
  [⟨d.sweep.workingDir.bytes ≠ [], .emptyWorkingDir⟩,
    ⟨d.sweep.archiveDir.bytes ≠ [], .emptyArchiveDir⟩,
    ⟨¬ SamePlace d.sweep.workingDir d.sweep.archiveDir, .sameDirectories d.sweep.workingDir⟩]

/-- **All that is asked of a draft**, in order. -/
def requirements (d : Draft) : List Requirement :=
  d.thresholdRequirements ++ (d.acquisitionRequirements ++ (d.directoryRequirements ++
    [⟨d.repetition.maxIterations ≠ some 0, .zeroIterations⟩]))

variable {d : Draft}

theorem acceptable_iff : d.Acceptable ↔ ∀ r ∈ d.requirements, r.holds := by
  simp only [requirements, thresholdRequirements, acquisitionRequirements, directoryRequirements,
    List.forall_mem_append, List.forall_mem_cons, List.forall_mem_map, Option.mem_toList]
  constructor
  · intro h
    simpa using ⟨⟨⟨h.threshold, h.whole⟩, h.sweepThreshold⟩, ⟨h.binary, h.duration, h.runs, h.name⟩,
      ⟨h.workingDir, h.archiveDir, h.directories⟩, h.iterations⟩
  · rintro ⟨⟨⟨hthreshold, hwhole, -⟩, hsweep⟩, ⟨hbinary, hduration, hruns, hname, -⟩,
      ⟨hworking, harchive, hdirectories, -⟩, hiterations, -⟩
    exact ⟨hthreshold, hwhole, hsweep, hbinary, hduration, hruns, hname, hworking, harchive,
      hdirectories, hiterations⟩

/-- Another threshold will do if it is one. -/
theorem Acceptable.withThreshold (h : d.Acceptable) {x : Float} (hnonneg : NonNegative x)
    (hwhole : Whole x) :
    Acceptable { d with acquisition := { d.acquisition with threshold := x } } :=
  { h with threshold := hnonneg, whole := hwhole }

/-- Other directories will do if they are two. -/
theorem Acceptable.withDirectories (h : d.Acceptable) {working archive : Path}
    (hworking : working.bytes ≠ []) (harchive : archive.bytes ≠ [])
    (hapart : ¬ SamePlace working archive) :
    Acceptable
      { d with sweep := { d.sweep with workingDir := working, archiveDir := archive } } :=
  { h with workingDir := hworking, archiveDir := harchive, directories := hapart }

/-! ## The checks -/

theorem isThreshold_iff {x : Float} : isThreshold x = true ↔ NonNegative x := by
  rw [isThreshold, Bool.and_eq_true, Bool.not_eq_true', ← Bool.not_eq_true, Binary64.isFinite_iff]
  constructor
  · rintro ⟨⟨q, hq⟩, hnonneg⟩
    exact ⟨q, hq, not_lt.mp ((Binary64.isNegative_iff hq).not.mp hnonneg)⟩
  · rintro ⟨q, hq, hnonneg⟩
    exact ⟨⟨q, hq⟩, (Binary64.isNegative_iff hq).not.mpr (not_lt.mpr hnonneg)⟩

theorem isEmpty_iff {p : Path} : p.isEmpty = true ↔ ¬ p.bytes ≠ [] := by
  rw [Path.isEmpty, List.isEmpty_iff, not_not]

theorem isBlankText_iff {text : String} : isBlankText text = true ↔ ¬ Visible text := by
  simp [isBlankText, Visible]

theorem checks_thresholds (d : Draft) : Checks d.thresholdRequirements d.checkThresholds := by
  refine .next_unless isThreshold_iff (.next_unless Binary64.isWhole_iff ?_)
  cases d.sweep.threshold with
  | none => exact .nil
  | some x => exact .next_unless isThreshold_iff .nil

theorem checks_acquisition (d : Draft) : Checks d.acquisitionRequirements d.checkAcquisition := by
  have hduration : d.acquisition.durationSecs = 0 ↔ ¬ 1 ≤ d.acquisition.durationSecs := by
    rw [UInt64.le_iff_toNat_le, ← UInt64.toNat_inj]
    simp
  have hname : d.acquisition.name.any isBlankText = true ↔
      ¬ ∀ name, d.acquisition.name = some name → Visible name := by
    cases d.acquisition.name <;> simp [isBlankText_iff]
  exact .next isEmpty_iff (.next hduration (.next not_not.symm (.next hname .nil)))

theorem checks_directories (d : Draft) : Checks d.directoryRequirements d.checkDirectories :=
  .next isEmpty_iff (.next isEmpty_iff (.next (Path.sameSteps_iff.trans not_not.symm) .nil))

/-- **The checks of a draft go through all that is asked of it, in order.** -/
theorem checks_check (d : Draft) : Checks d.requirements d.check := by
  refine .append d.checks_thresholds (.append d.checks_acquisition (.append d.checks_directories ?_))
  exact .next not_not.symm .nil

/-- The checks find nothing exactly in an acceptable draft. -/
theorem acceptable_iff_check : d.Acceptable ↔ d.check = .ok () :=
  acceptable_iff.trans d.checks_check.eq_ok_iff.symm

theorem acceptable_default : ({} : Draft).Acceptable :=
  acceptable_iff_check.mpr rfl

/-- A configuration is a draft whose checks find nothing. -/
theorem exists_config_iff : (∃ c : Config, c.toDraft = d) ↔ d.check = .ok () := by
  constructor
  · rintro ⟨c, rfl⟩
    exact c.valid
  · exact fun h => ⟨⟨d, h⟩, rfl⟩

theorem Acceptable.exists_accepted (h : d.Acceptable) : ∃ c, d.accept = .ok c :=
  (exists_config_iff.mpr (acceptable_iff_check.mp h)).imp fun _ => accept_eq_ok_iff.mpr

/-- The error of a draft that is not accepted is the one that its checks report. -/
theorem accept_eq_error_iff {e : RunError} :
    d.accept = .error e ↔ ∃ rule, d.check = .error rule ∧ e = .invalid rule := by
  unfold accept validate
  split <;> rename_i hcheck
  · simp [hcheck, Except.mapError]
  · simp [hcheck, Except.mapError, eq_comm]

/-- **Exactly the acceptable drafts are accepted**, and as they are. Any other is refused with the report
of the first requirement that it does not meet. -/
theorem accepts_acceptable (d : Draft) :
    ((∃ c, d.accept = .ok c) ↔ d.Acceptable) ∧ (∀ c, d.accept = .ok c ↔ c.toDraft = d) ∧
      ∀ e, d.accept = .error e ↔
        ∃ before r after, d.requirements = before ++ r :: after ∧
          (∀ earlier ∈ before, earlier.holds) ∧ ¬ r.holds ∧ e = .invalid r.report := by
  refine ⟨?_, fun c => accept_eq_ok_iff, fun e => ?_⟩
  · rw [acceptable_iff, ← d.checks_check.eq_ok_iff, ← exists_config_iff]
    exact exists_congr fun c => accept_eq_ok_iff
  · simp only [accept_eq_error_iff, d.checks_check.eq_error_iff]
    constructor
    · rintro ⟨rule, ⟨before, r, after, hall, hbefore, hr, rfl⟩, rfl⟩
      exact ⟨before, r, after, hall, hbefore, hr, rfl⟩
    · rintro ⟨before, r, after, hall, hbefore, hr, rfl⟩
      exact ⟨_, ⟨before, r, after, hall, hbefore, hr, rfl⟩, rfl⟩

/-- The built-in settings are accepted. Of three faults that have crept into them, the fractional threshold
is reported, and that no iteration is to be made counts as a fault in single-shot mode too. -/
theorem faults_have_an_order :
    let faulty : Draft :=
      { acquisition := { threshold := 0.5, binary := ⟨[]⟩ }
        repetition := { singleShot := true, maxIterations := some 0 } }
    (∃ c, ({} : Draft).accept = .ok c) ∧
      faulty.accept = .error (.invalid (.fractionalThreshold 0.5)) ∧
      ¬ ∃ c, { faulty with acquisition := {} }.accept = .ok c := by
  intro faulty
  refine ⟨?_, ?_, ?_⟩
  · have hcheck : ({} : Draft).check = .ok () := rfl
    exact (accepts_acceptable {}).1.mpr (acceptable_iff.mpr ((checks_check {}).eq_ok_iff.mp hcheck))
  · have hnonneg : NonNegative 0.5 := isThreshold_iff.mp rfl
    have hfraction : ¬ Whole 0.5 := Binary64.isWhole_iff.not.mp (by decide)
    refine ((accepts_acceptable faulty).2.2 _).mpr
      ⟨[⟨NonNegative 0.5, .negativeThreshold .acquisition 0.5⟩], _, _, rfl, ?_, hfraction, rfl⟩
    simpa using hnonneg
  · rw [(accepts_acceptable _).1]
    exact fun h => h.iterations rfl

end Draft

end RunSweep
