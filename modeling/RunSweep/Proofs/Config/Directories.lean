import RunSweep.Proofs.Config.Acceptance

/-!
# Directories that are two in writing only

The two directories of a configuration are to differ, and not just in the way they are written. `Path.Respells`
says that two paths are the same but for slashes and for `.`, wherever it stands: they start at the
same place and have the same names in the same order.

The check takes no notice of slashes, nor of a `.` behind one. But it does take a `.` at the front for a name.
So there is one way to write a directory twice and be accepted: relative both times, and once with `.` in front.
-/

namespace RunSweep

namespace Path

/-- The names in a path, with every `.` left out. -/
def plainNames (p : Path) : List Bytes :=
  (segments p.bytes).filter (!isIdle ·)

/-- **Two spellings of one path.** -/
def Respells (p q : Path) : Prop :=
  p.isAbsolute = q.isAbsolute ∧ p.plainNames = q.plainNames

instance (p q : Path) : Decidable (p.Respells q) :=
  inferInstanceAs (Decidable (_ ∧ _))

/-- Whether `.` is what stands before the first slash. -/
def isDotted (p : Path) : Bool :=
  (segments p.bytes).head? == some [dot]

/-- **A `.` in front is a name**, and no other is. -/
theorem names_eq (p : Path) :
    p.names = (if p.isDotted then [[dot]] else []) ++ p.plainNames := by
  unfold names isDotted plainNames
  rcases segments p.bytes with _ | ⟨first, later⟩
  · rfl
  by_cases hnil : first = []
  · simp [hnil, isIdle]
  by_cases hdot : first = [dot]
  · simp [hdot, isIdle]
  · simp [hnil, hdot, isIdle]

theorem dot_notMem_plainNames (p : Path) : [dot] ∉ p.plainNames := by
  unfold plainNames
  rw [List.mem_filter]
  exact fun hmem => absurd hmem.2 (by decide)

/-- Paths that are taken for one are spellings of one path, with `.` in front of both or of neither. -/
theorem samePlace_iff {p q : Path} :
    SamePlace p q ↔ p.Respells q ∧ p.isDotted = q.isDotted := by
  have hp := p.dot_notMem_plainNames
  have hq := q.dot_notMem_plainNames
  rw [SamePlace, Respells, and_assoc, names_eq, names_eq]
  refine and_congr_right fun _ => ?_
  -- a `.` in front of one of them only is a name that the other has nowhere
  cases p.isDotted <;> cases q.isDotted
  case false.false => simp
  case true.true => simp
  case false.true =>
    simp only [if_true, Bool.false_eq_true, if_false, List.nil_append, and_false, iff_false]
    exact fun h => hp (h ▸ List.mem_cons_self)
  case true.false =>
    simp only [if_true, Bool.false_eq_true, if_false, List.nil_append, Bool.true_eq_false, and_false,
      iff_false]
    exact fun h => hq (h ▸ List.mem_cons_self)

end Path

namespace Config

/-- **The directories of a configuration are not two spellings of one path**, unless `.` stands in front of
exactly one of them. Then they may well be: whatever else is in the configuration, they are accepted. -/
theorem directories_respelled (c : Config) :
    (c.sweep.workingDir.Respells c.sweep.archiveDir →
        c.sweep.workingDir.isDotted ≠ c.sweep.archiveDir.isDotted) ∧
      ∀ working archive : Path, working.bytes ≠ [] → archive.bytes ≠ [] →
        working.isDotted ≠ archive.isDotted →
        ∃ c' : Config, Draft.accept
          { c.toDraft with
            sweep := { c.sweep with workingDir := working, archiveDir := archive } } = .ok c' := by
  have hacceptable := Draft.acceptable_iff_check.mpr c.valid
  constructor
  · intro hrespells hdotted
    exact hacceptable.directories (Path.samePlace_iff.mpr ⟨hrespells, hdotted⟩)
  · intro working archive hworking harchive hdotted
    have hapart : ¬ SamePlace working archive := fun hsame =>
      hdotted (Path.samePlace_iff.mp hsame).2
    exact (hacceptable.withDirectories hworking harchive hapart).exists_accepted

/-- A directory is accepted as the archive of itself if it is written with `.` in front once, whatever
slashes there are; and this is the only way. -/
theorem dotted_spelling_accepted :
    (Path.ofText "./run").isDotted ≠ (Path.ofText "run//").isDotted ∧
      ∃ c : Config, c.sweep.workingDir = .ofText "./run" ∧ c.sweep.archiveDir = .ofText "run//" ∧
        c.sweep.workingDir.Respells c.sweep.archiveDir ∧
          c.sweep.workingDir.isDotted ≠ c.sweep.archiveDir.isDotted := by
  have hdotted : (Path.ofText "./run").isDotted ≠ (Path.ofText "run//").isDotted := by decide +kernel
  have hrespells : (Path.ofText "./run").Respells (Path.ofText "run//") := by decide +kernel
  obtain ⟨standard, -⟩ := Draft.acceptable_default.exists_accepted
  obtain ⟨c, hc⟩ := standard.directories_respelled.2 _ _ (by decide) (by decide) hdotted
  have hdraft := Draft.accept_eq_ok_iff.mp hc
  have hworking : c.sweep.workingDir = .ofText "./run" := by rw [hdraft]
  have harchive : c.sweep.archiveDir = .ofText "run//" := by rw [hdraft]
  have hsame : c.sweep.workingDir.Respells c.sweep.archiveDir := by rwa [hworking, harchive]
  exact ⟨hdotted, c, hworking, harchive, hsame, c.directories_respelled.1 hsame⟩

/-- **An accepted configuration may have one directory written twice.** -/
theorem directory_written_twice :
    ∃ c, ({ sweep := { workingDir := .ofText "./run", archiveDir := .ofText "run" } } : Draft).accept =
        .ok c ∧ c.sweep.workingDir.Respells c.sweep.archiveDir := by
  have hapart : ¬ SamePlace (.ofText "./run") (.ofText "run") := by
    rw [Path.samePlace_iff]
    decide +kernel
  have hrespells : (Path.ofText "./run").Respells (.ofText "run") := by decide +kernel
  obtain ⟨c, hc⟩ := (Draft.acceptable_default.withDirectories (by decide) (by decide)
    hapart).exists_accepted
  refine ⟨c, hc, ?_⟩
  rw [Draft.accept_eq_ok_iff.mp hc]
  exact hrespells

end Config

end RunSweep
