import RunSweep.Proofs.Storage.Equivalence
import RunSweep.Proofs.Sweep.Isolation

/-!
# The copy fallback does not show

A file that cannot be renamed is copied and then removed. Two trees are `Interchangeable` if they hold the
same and refuse the same, except that one may refuse to rename where both are free to copy and to remove.
Moving a file keeps them so, and so does every other part of a sweep. What is told of the files is the
same as well, apart from the wording of failures: that is what a `Verdict` keeps of an outcome.
-/

namespace RunSweep

/-! ## Reports apart from their wording -/

/-- What is told of a file, without the reason why it could not be handled. -/
inductive Verdict where
  | archived
  | deleted
  | skipped
  | failed (action : FileAction)
  deriving DecidableEq

/-- The step that failed, if one did. -/
def Verdict.action? : Verdict → Option FileAction
  | failed action => some action
  | _ => none

/-- An outcome without its wording. -/
def Outcome.verdict : Outcome → Verdict
  | archived => .archived
  | deleted => .deleted
  | skipped => .skipped
  | failed mishap => .failed mishap.action

namespace Report

variable {r r' : Report}

/-- **Two reports tell the same** but for the wording of failures. -/
structure SameButWording (r r' : Report) : Prop where
  archived : r.archived = r'.archived
  deleted : r.deleted = r'.deleted
  skipped : r.skipped = r'.skipped
  failures : r.failures.map (Prod.map id Mishap.action) =
    r'.failures.map (Prod.map id Mishap.action)

/-- The names of a report, in order, with the verdicts on them. -/
def verdicts (r : Report) : List (String × Verdict) :=
  r.entries.map (Prod.map id Outcome.verdict)

/-- A list of names depends on the verdicts only, unless it is the failures'. -/
theorem names_eq_of_verdicts {outcome : Outcome}
    (h : ∀ other : Outcome, other.verdict = outcome.verdict ↔ other = outcome) :
    r.names outcome = (r.verdicts.filter (·.2 == outcome.verdict)).map Prod.fst := by
  have htest : (fun entry : String × Outcome => entry.2.verdict == outcome.verdict) =
      fun entry => entry.2 == outcome := by
    funext entry
    rw [Bool.eq_iff_iff, beq_iff_eq, beq_iff_eq]
    exact h entry.2
  rw [names, verdicts, List.filter_map, List.map_map]
  show _ = (r.entries.filter fun entry => entry.2.verdict == outcome.verdict).map Prod.fst
  rw [htest]

/-- So do the failures, with the step that failed. -/
theorem failures_eq_of_verdicts :
    r.failures.map (Prod.map id Mishap.action) =
      r.verdicts.filterMap fun entry => entry.2.action?.map (entry.1, ·) := by
  rw [failures, verdicts, List.map_filterMap, List.filterMap_map]
  congr 1
  funext entry
  obtain ⟨name, outcome⟩ := entry
  cases outcome <;> rfl

theorem sameButWording_of_verdicts (h : r.verdicts = r'.verdicts) : r.SameButWording r' := by
  have hnames {outcome : Outcome}
      (houtcome : ∀ other : Outcome, other.verdict = outcome.verdict ↔ other = outcome) :
      r.names outcome = r'.names outcome := by
    rw [names_eq_of_verdicts houtcome, names_eq_of_verdicts houtcome, h]
  constructor
  case archived => exact hnames fun other => by cases other <;> simp [Outcome.verdict]
  case deleted => exact hnames fun other => by cases other <;> simp [Outcome.verdict]
  case skipped => exact hnames fun other => by cases other <;> simp [Outcome.verdict]
  case failures => rw [failures_eq_of_verdicts, failures_eq_of_verdicts, h]

end Report

/-! ## Trees in which a copy will do for a rename -/

namespace Tree

variable {t u : Tree}

/-- **Trees that hold the same and refuse the same**, except that one may refuse to rename a file that
both are free to copy and to remove. -/
structure Interchangeable (t u : Tree) : Prop where
  equiv : t.Equiv u
  refuses : ∀ operation, operation ≠ .rename → ∀ place,
    t.refuses operation place = u.refuses operation place
  renames : ∀ place, t.refuses .rename place = u.refuses .rename place ∨
    t.refuses .copy place = false ∧ t.refuses .removeFile place = false

/-- Changes do not touch what is refused. -/
theorem Interchangeable.of_equiv {t' u' : Tree} (h : t.Interchangeable u)
    (ht : t'.failing = t.failing) (hu : u'.failing = u.failing) (hequiv : t'.Equiv u') :
    t'.Interchangeable u' := by
  have hrefuses {before after : Tree} (heq : after.failing = before.failing) (operation : Operation)
      (place : Place) : after.refuses operation place = before.refuses operation place := by
    rw [Tree.refuses, Tree.refuses, heq]
  refine ⟨hequiv, fun operation hne place => ?_, fun place => ?_⟩
  · rw [hrefuses ht, hrefuses hu]
    exact h.refuses operation hne place
  · rw [hrefuses ht, hrefuses ht, hrefuses ht, hrefuses hu]
    exact h.renames place

/-- Where two operations are not refused, they are let through alike. -/
theorem allowMove_eq_of_free (operation operation' : Operation) {source target : Path}
    (h : t.refuses operation source.components = false)
    (h' : t.refuses operation' source.components = false) :
    t.allowMove operation source target = t.allowMove operation' source target := by
  unfold allowMove
  rw [check_eq, check_eq, h, h']
  rfl

theorem allowMove_of_refused (operation : Operation) {source target : Path}
    (h : t.refuses operation source.components = true) :
    t.allowMove operation source target = .error (.injected operation source) := by
  unfold allowMove
  rw [check_eq, if_pos h]
  rfl

theorem requireFile_of_fileAt? {path : Path} {e : Entry} (h : t.fileAt? path.components = some e) :
    t.requireFile path = .ok e := by
  obtain ⟨hfind, hfile⟩ := fileAt?_eq_some.mp h
  unfold requireFile
  rw [hfind]
  cases e with
  | file => rfl
  | dir => cases hfile

theorem allowRemoval_of_free {path : Path} {e : Entry}
    (hfree : t.refuses .removeFile path.components = false)
    (hfile : t.fileAt? path.components = some e) : t.allowRemoval path = .ok e := by
  unfold allowRemoval
  rw [check_eq, hfree, requireFile_of_fileAt? hfile]
  rfl

end Tree

namespace Sweeper

variable {s : Sweeper} {name : String}

/-- **A file that is free to be copied and removed is moved**, whether it may be renamed or not, unless
something else stands against it. -/
theorem moveFile_of_free (hname : Path.IsName (Utf8.encode name))
    (hdirs : s.workingDir.components ≠ s.archiveDir.components) {t : Tree}
    (hcopy : t.refuses .copy (s.source name) = false)
    (hremove : t.refuses .removeFile (s.source name) = false) :
    (∃ fault, t.allowMove .copy (s.entryPath name) (s.archivePath name) = .error fault ∧
        (moveFile Tree.fileSystem (s.entryPath name) (s.archivePath name) t).1.verdict =
            .failed .archive ∧
          (moveFile Tree.fileSystem (s.entryPath name) (s.archivePath name) t).2 = t) ∨
      ∃ e, t.allowMove .copy (s.entryPath name) (s.archivePath name) = .ok e ∧
        (moveFile Tree.fileSystem (s.entryPath name) (s.archivePath name) t).1 = .archived ∧
          (moveFile Tree.fileSystem (s.entryPath name) (s.archivePath name) t).2.Equiv
            ((t.without (s.source name)).withEntry (s.target name) e) := by
  have hsource : (s.entryPath name).components = s.source name := components_entryPath hname
  rw [moveFile_tree, components_archivePath hname, hsource]
  by_cases hrename : t.refuses .rename (s.source name) = true
  -- it cannot be renamed, and is copied
  · rw [Tree.allowMove_of_refused .rename (hsource.symm ▸ hrename)]
    rcases hallowed : t.allowMove .copy (s.entryPath name) (s.archivePath name) with fault | e
    · exact .inl ⟨fault, rfl, rfl, rfl⟩
    have hfile : t.fileAt? (s.source name) = some e := hsource ▸ Tree.allowMove_eq_ok hallowed
    have hisfile : e.isDir = false := (Tree.fileAt?_eq_some.mp hfile).2
    -- the copy leaves the source in place, so it can be removed
    have hremoval : (t.withEntry (s.target name) e).allowRemoval (s.entryPath name) = .ok e := by
      apply Tree.allowRemoval_of_free
      · rw [hsource, Tree.refuses, Tree.failing_withEntry]
        exact hremove
      · rw [hsource, Tree.fileAt?_withEntry _ _ _ hisfile, if_neg (source_ne_target hdirs), hfile]
    dsimp only
    rw [hremoval]
    exact .inr ⟨e, rfl, rfl, Tree.withEntry_without_equiv t hdirs _ _ hisfile⟩
  -- it can be renamed unless it cannot be copied either
  · rw [Bool.not_eq_true] at hrename
    rw [Tree.allowMove_eq_of_free .rename .copy (hsource.symm ▸ hrename)
      (hsource.symm ▸ hcopy)]
    rcases t.allowMove .copy (s.entryPath name) (s.archivePath name) with fault | e
    · exact .inl ⟨fault, rfl, rfl, rfl⟩
    · exact .inr ⟨e, rfl, rfl, Tree.Equiv.refl _⟩

/-- Moving a file in trees that hold the same, where the same is refused on its path. -/
theorem moveFile_of_equiv (hname : Path.IsName (Utf8.encode name)) {t u : Tree} (h : t.Equiv u)
    (hrefuses : ∀ operation,
      t.refuses operation (s.source name) = u.refuses operation (s.source name)) :
    (moveFile Tree.fileSystem (s.entryPath name) (s.archivePath name) t).1 =
        (moveFile Tree.fileSystem (s.entryPath name) (s.archivePath name) u).1 ∧
      (moveFile Tree.fileSystem (s.entryPath name) (s.archivePath name) t).2.Equiv
        (moveFile Tree.fileSystem (s.entryPath name) (s.archivePath name) u).2 := by
  have hallowed (operation : Operation) :
      t.allowMove operation (s.entryPath name) (s.archivePath name) =
        u.allowMove operation (s.entryPath name) (s.archivePath name) :=
    allowMove_congr hname (hrefuses operation) (h _) (h.kindAt?_eq _)
  have hremoval (e : Entry) :
      (t.withEntry (s.target name) e).allowRemoval (s.entryPath name) =
        (u.withEntry (s.target name) e).allowRemoval (s.entryPath name) := by
    refine allowRemoval_congr hname ?_ (h.withEntry _ e _)
    rw [Tree.refuses, Tree.refuses, Tree.failing_withEntry, Tree.failing_withEntry]
    exact hrefuses .removeFile
  rw [moveFile_tree, moveFile_tree, components_archivePath hname, hallowed, hallowed]
  rcases u.allowMove .rename (s.entryPath name) (s.archivePath name) with onRename | e
  · rcases u.allowMove .copy (s.entryPath name) (s.archivePath name) with onCopy | e
    · exact ⟨rfl, h⟩
    · dsimp only
      rw [hremoval e]
      rcases (u.withEntry (s.target name) e).allowRemoval (s.entryPath name) with fault | _
      · exact ⟨rfl, h.withEntry _ e⟩
      · exact ⟨rfl, (h.withEntry _ e).without _⟩
  · exact ⟨rfl, (h.without _).withEntry _ e⟩

/-- **Moving a file in interchangeable trees** ends alike, and leaves interchangeable trees. -/
theorem interchangeable_moveFile (hname : Path.IsName (Utf8.encode name))
    (hdirs : s.workingDir.components ≠ s.archiveDir.components) {t u : Tree}
    (h : t.Interchangeable u) :
    (moveFile Tree.fileSystem (s.entryPath name) (s.archivePath name) t).1.verdict =
        (moveFile Tree.fileSystem (s.entryPath name) (s.archivePath name) u).1.verdict ∧
      (moveFile Tree.fileSystem (s.entryPath name) (s.archivePath name) t).2.Interchangeable
        (moveFile Tree.fileSystem (s.entryPath name) (s.archivePath name) u).2 := by
  have hchanged := h.of_equiv (failing_moveFile (s := s) hname t) (failing_moveFile (s := s) hname u)
  rcases h.renames (s.source name) with hrename | ⟨hfree, hfree'⟩
  -- both trees take the same way
  · have hrefuses (operation : Operation) :
        t.refuses operation (s.source name) = u.refuses operation (s.source name) := by
      by_cases hoperation : operation = .rename
      · rw [hoperation, hrename]
      · exact h.refuses operation hoperation _
    obtain ⟨houtcome, hequiv⟩ := moveFile_of_equiv hname h.equiv hrefuses
    exact ⟨congrArg Outcome.verdict houtcome, hchanged hequiv⟩
  -- each tree may take a way of its own
  · have hcopy : t.allowMove .copy (s.entryPath name) (s.archivePath name) =
        u.allowMove .copy (s.entryPath name) (s.archivePath name) :=
      allowMove_congr hname (h.refuses .copy (by decide) _) (h.equiv _) (h.equiv.kindAt?_eq _)
    have hu := moveFile_of_free hname hdirs ((h.refuses .copy (by decide) _).symm.trans hfree)
      ((h.refuses .removeFile (by decide) _).symm.trans hfree')
    rcases moveFile_of_free hname hdirs hfree hfree' with
      ⟨fault, hallowed, hverdict, hafter⟩ | ⟨e, hallowed, houtcome, hafter⟩
    · rw [← hcopy, hallowed] at hu
      obtain ⟨_, -, hverdict', hafter'⟩ | ⟨_, ⟨⟩, -⟩ := hu
      refine ⟨hverdict.trans hverdict'.symm, hchanged ?_⟩
      rw [hafter, hafter']
      exact h.equiv
    · rw [← hcopy, hallowed] at hu
      obtain ⟨_, ⟨⟩, -⟩ | ⟨_, ⟨⟩, houtcome', hafter'⟩ := hu
      refine ⟨by rw [houtcome, houtcome'], hchanged ?_⟩
      exact hafter.trans (((h.equiv.without _).withEntry _ e).trans hafter'.symm)

/-! ## Passes over interchangeable trees -/

/-- Two passes have come equally far over interchangeable trees. -/
structure Pass.Interchangeable (p q : Pass Tree) : Prop where
  store : p.store.Interchangeable q.store
  ready : p.ready = q.ready

variable {p q : Pass Tree}

theorem interchangeable_ensureArchive (s : Sweeper) (h : p.Interchangeable q) :
    (s.ensureArchive Tree.fileSystem p).1 = (s.ensureArchive Tree.fileSystem q).1 ∧
      (s.ensureArchive Tree.fileSystem p).2.Interchangeable
        (s.ensureArchive Tree.fileSystem q).2 := by
  have hdir : p.store.isDir s.archiveDir = q.store.isDir s.archiveDir := by
    rw [Tree.isDir_eq, Tree.isDir_eq, h.store.equiv.kindAt?_eq]
  have hallow : p.store.allowDir s.archiveDir = q.store.allowDir s.archiveDir := by
    rw [Tree.allowDir_eq, Tree.allowDir_eq, h.store.equiv.kindAt?_eq,
      h.store.refuses .createDir (by decide)]
  have hmade := h.store.of_equiv (Tree.failing_ensureDir _ _) (Tree.failing_ensureDir _ _)
    (h.store.equiv.ensureDir s.archiveDir.components)
  rw [ensureArchive_tree, ensureArchive_tree, h.ready, hdir, hallow]
  split_ifs
  · exact ⟨rfl, h⟩
  · exact ⟨rfl, h.store, rfl⟩
  rcases q.store.allowDir s.archiveDir with fault | _
  · exact ⟨rfl, h⟩
  · exact ⟨rfl, hmade, rfl⟩

/-- **Handling a name in interchangeable trees** leads to one verdict, and to interchangeable trees. -/
theorem interchangeable_handleName (hname : Path.IsName (Utf8.encode name))
    (hdirs : s.workingDir.components ≠ s.archiveDir.components) (h : p.Interchangeable q) :
    (s.handleName name p).1.verdict = (s.handleName name q).1.verdict ∧
      (s.handleName name p).2.Interchangeable (s.handleName name q).2 := by
  have hentry := h.store.equiv (s.source name)
  rw [handleName, handleName, handle_tree, handle_tree,
    metadata_congr hname (h.store.refuses .metadata (by decide) _) hentry]
  rcases q.store.metadata (s.entryPath name) with fault | info
  · exact ⟨rfl, h⟩
  dsimp only
  split_ifs
  · exact ⟨rfl, h⟩
  cases classify info.len s.threshold with
  | archive =>
      obtain ⟨hresult, hready⟩ := interchangeable_ensureArchive s h
      dsimp only
      unfold archiveFile
      generalize s.ensureArchive Tree.fileSystem p = left at hresult hready ⊢
      generalize s.ensureArchive Tree.fileSystem q = right at hresult hready ⊢
      obtain ⟨result, p'⟩ := left
      obtain ⟨result', q'⟩ := right
      obtain rfl : result = result' := hresult
      cases result with
      | error fault => exact ⟨rfl, hready⟩
      | ok =>
          obtain ⟨hverdict, hstore⟩ := interchangeable_moveFile hname hdirs hready.store
          exact ⟨hverdict, hstore, hready.ready⟩
  | delete =>
      dsimp only
      rw [deleteFile_tree, deleteFile_tree,
        allowRemoval_congr hname (h.store.refuses .removeFile (by decide) _) hentry]
      rcases q.store.allowRemoval (s.entryPath name) with fault | _
      · exact ⟨rfl, h⟩
      · refine ⟨rfl, h.store.of_equiv ?_ ?_ (h.store.equiv.without _), h.ready⟩
        · exact Tree.failing_without _ _
        · exact Tree.failing_without _ _

/-- Handling names in interchangeable trees. -/
theorem interchangeable_handleNames (hdirs : s.workingDir.components ≠ s.archiveDir.components)
    {names : List String} (hnames : ∀ name ∈ names, Path.IsName (Utf8.encode name))
    (h : p.Interchangeable q) :
    (s.handleNames names p).1.map (Prod.map id Outcome.verdict) =
        (s.handleNames names q).1.map (Prod.map id Outcome.verdict) ∧
      (s.handleNames names p).2.Interchangeable (s.handleNames names q).2 := by
  induction names generalizing p q with
  | nil => exact ⟨rfl, h.store⟩
  | cons name names ih =>
      have hname := hnames name List.mem_cons_self
      obtain ⟨hverdict, hnext⟩ := interchangeable_handleName hname hdirs h
      obtain ⟨hverdicts, hstore⟩ :=
        ih (fun other hother => hnames other (List.mem_cons_of_mem _ hother)) hnext
      rw [handleNames_cons s hname, handleNames_cons s hname]
      refine ⟨?_, hstore⟩
      rw [List.map_cons, List.map_cons, hverdicts, Prod.map_apply, Prod.map_apply, hverdict]

/-! ## The whole sweep -/

/-- Listing in interchangeable trees. -/
theorem readDir_of_interchangeable {t u : Tree} (h : t.Interchangeable u) (path : Path) :
    t.readDir path = u.readDir path := by
  unfold Tree.readDir
  rw [Tree.check_eq, Tree.check_eq, h.refuses .readDir (by decide), h.equiv]

/-- Refusing to rename where nothing else is refused leads to an interchangeable tree. -/
theorem interchangeable_failAll {t : Tree} {paths : List Path}
    (hfree : ∀ path ∈ paths, t.refuses .copy path.components = false ∧
      t.refuses .removeFile path.components = false) :
    t.Interchangeable (t.failAll (paths.map fun path => (.rename, path))) := by
  have hmem {operation : Operation} {path : Path}
      (h : (operation, path) ∈ paths.map fun path => (Operation.rename, path)) :
      operation = .rename ∧ path ∈ paths := by
    obtain ⟨other, hother, heq⟩ := List.mem_map.mp h
    obtain ⟨rfl, rfl⟩ := Prod.mk.inj heq
    exact ⟨rfl, hother⟩
  refine ⟨fun place => (Tree.find?_failAll _).symm, fun operation hne place => ?_, fun place => ?_⟩
  · exact (Tree.refuses_failAll fun path hpath => absurd (hmem hpath).1 hne).symm
  · by_cases hplace : ∃ path ∈ paths, path.components = place
    · obtain ⟨path, hpath, rfl⟩ := hplace
      exact .inr (hfree path hpath)
    · refine .inl (Tree.refuses_failAll fun path hpath heq => hplace ?_).symm
      exact ⟨path, (hmem hpath).2, heq⟩

/-- **The copy fallback does not show.** Take a tree that edits lead to, with whatever operations are to
fail, a working and an archive directory that differ, and some paths that are free to be copied and to be
removed. Whether or not these are refused to be renamed, the sweep either cannot list the working
directory, or tells the same of every file but for the wording of failures; and it leaves the same at
every place. -/
theorem sweep_hides_fallback {t : Tree} (ht : t.Reachable)
    (hdirs : s.workingDir.components ≠ s.archiveDir.components) {paths : List Path}
    (hfree : ∀ path ∈ paths, t.refuses .copy path.components = false ∧
      t.refuses .removeFile path.components = false)
    {result result' : Except Fault Report} {after after' : Tree}
    (h : s.sweep Tree.fileSystem t = (result, after))
    (h' : s.sweep Tree.fileSystem (t.failAll (paths.map fun path => (.rename, path))) =
      (result', after')) :
    ((∃ fault, result = .error fault ∧ result' = .error fault) ∨
        ∃ report report', result = .ok report ∧ result' = .ok report' ∧
          report.SameButWording report') ∧
      ∀ place, after.find? place = after'.find? place := by
  have hstart := interchangeable_failAll hfree
  rw [sweep_tree] at h h'
  rw [← readDir_of_interchangeable hstart] at h'
  rcases hread : t.readDir s.workingDir with fault | listing
  · rw [hread] at h h'
    cases h
    cases h'
    exact ⟨.inl ⟨fault, rfl, rfl⟩, hstart.equiv⟩
  · rw [hread] at h h'
    obtain ⟨names, hlisting, -, -, hnames⟩ := exists_listing s ht.tidy hread
    dsimp only at h h'
    rw [hlisting] at h h'
    cases h
    cases h'
    obtain ⟨hverdicts, hstore⟩ := interchangeable_handleNames hdirs hnames
      (p := { store := t }) (q := { store := t.failAll _ }) ⟨hstart, rfl⟩
    exact ⟨.inr ⟨_, _, rfl, rfl, Report.sameButWording_of_verdicts hverdicts⟩, hstore.equiv⟩

/-- A first file that has to be copied ends up as if it had been renamed. -/
theorem first_file_copied_alike :
    ∃ report report' after after',
      hundredMegabytes.sweep Tree.fileSystem twoFiles = (.ok report, after) ∧
      hundredMegabytes.sweep Tree.fileSystem
          (twoFiles.failAll ([.ofText "/run/a.dat"].map fun path => (.rename, path))) =
        (.ok report', after') ∧
      report.SameButWording report' ∧ ∀ place, after.find? place = after'.find? place := by
  have hfree : ∀ path ∈ [Path.ofText "/run/a.dat"],
      twoFiles.refuses .copy path.components = false ∧
        twoFiles.refuses .removeFile path.components = false := by
    decide +kernel
  -- the working directory can be listed
  have hok : ∃ report after, hundredMegabytes.sweep Tree.fileSystem twoFiles = (.ok report, after) := by
    rw [sweep_tree, twoFiles_readDir]
    exact ⟨_, _, rfl⟩
  obtain ⟨report, after, hsweep⟩ := hok
  obtain ⟨⟨result', after'⟩, hsweep'⟩ : ∃ ended, hundredMegabytes.sweep Tree.fileSystem
      (twoFiles.failAll ([.ofText "/run/a.dat"].map fun path => (.rename, path))) = ended := ⟨_, rfl⟩
  obtain ⟨⟨fault, ⟨⟩, -⟩ | ⟨_, report', ⟨⟩, rfl, hsame⟩, hplaces⟩ :=
    sweep_hides_fallback twoFiles_reachable hundredMegabytes_dirs hfree hsweep hsweep'
  exact ⟨report, report', after, after', hsweep, hsweep', hsame, hplaces⟩

end Sweeper

end RunSweep
