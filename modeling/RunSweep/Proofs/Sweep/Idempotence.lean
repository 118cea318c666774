import RunSweep.Proofs.Sweep.Completeness
import RunSweep.Proofs.Sweep.Partition

/-!
# A second sweep has nothing to do

A name leaves the listing of the working directory if and only if it is told of as archived or deleted,
by whichever way it went, and no name comes into it: the archive directory and what is moved there are
listed elsewhere. So a sweep without a failure leaves just the names that it passed over. These are
directories that can be looked at, and a sweep passes over them again without changing the tree.
-/

namespace RunSweep

/-- Whether a file has left the working directory. -/
def Outcome.hasLeft : Outcome → Bool
  | archived | deleted => true
  | _ => false

/-- The lists of a report in which all names are passed over. -/
theorem Report.lists_of_skipped {r : Report} {names : List String}
    (h : r.entries = names.map fun name => (name, .skipped)) :
    r.archived = [] ∧ r.deleted = [] ∧ r.failures = [] ∧ r.skipped = names := by
  obtain ⟨entries⟩ := r
  obtain rfl : entries = _ := h
  simp [archived, deleted, skipped, failures, Report.names, List.filter_map, Function.comp_def]

namespace Sweeper

variable {s : Sweeper} {t : Tree} {p : Pass Tree} {name other : String}

/-! ## What one name changes in the listing -/

/-- **A move takes the name out of the listing**, by renaming or by copying, if the file has left. -/
theorem mem_namesAt_moveFile (hname : Path.IsName (Utf8.encode name))
    (hdirs : s.workingDir.components ≠ s.archiveDir.components)
    (hne : s.workingDir.components ≠ s.target name) :
    other ∈ (moveFile Tree.fileSystem (s.entryPath name) (s.archivePath name) t).2.namesAt
        s.workingDir.components ↔
      other ∈ t.namesAt s.workingDir.components ∧ (other = name →
        (moveFile Tree.fileSystem (s.entryPath name) (s.archivePath name) t).1.hasLeft = false) := by
  have hfile {operation : Operation} {e : Entry}
      (h : t.allowMove operation (s.entryPath name) (s.archivePath name) = .ok e) :
      e.isDir = false :=
    (Tree.fileAt?_eq_some.mp (Tree.allowMove_eq_ok h)).2
  rw [moveFile_tree, components_entryPath hname, components_archivePath hname]
  rcases hrename : t.allowMove .rename (s.entryPath name) (s.archivePath name) with onRename | e
  · rcases hcopy : t.allowMove .copy (s.entryPath name) (s.archivePath name) with onCopy | e
    · simp [Outcome.hasLeft]
    · dsimp only
      rcases (t.withEntry (s.target name) e).allowRemoval (s.entryPath name) with fault | _
      -- copied, but not removed
      · simp [Outcome.hasLeft, mem_namesAt_withEntry_target hdirs hne (hfile hcopy)]
      · simp [Outcome.hasLeft, mem_namesAt_without_source,
          mem_namesAt_withEntry_target hdirs hne (hfile hcopy)]
  · simp [Outcome.hasLeft, mem_namesAt_without_source,
      mem_namesAt_withEntry_target hdirs hne (hfile hrename)]

/-- **Handling a name takes it out of the listing** if it has left, and changes nothing else there. -/
theorem mem_namesAt_handleName (hname : Path.IsName (Utf8.encode name))
    (hdirs : ¬s.workingDir.components <+: s.archiveDir.components)
    (hne : s.workingDir.components ≠ s.target name) :
    other ∈ (s.handleName name p).2.store.namesAt s.workingDir.components ↔
      other ∈ p.store.namesAt s.workingDir.components ∧
        (other = name → (s.handleName name p).1.hasLeft = false) := by
  rw [handleName, handle_tree]
  split
  · simp [Outcome.hasLeft]
  split_ifs
  · simp [Outcome.hasLeft]
  split
  · have hseen : (s.ensureArchive Tree.fileSystem p).2.store.namesAt s.workingDir.components =
        p.store.namesAt s.workingDir.components := by
      rw [Tree.namesAt, find?_ensureArchive hdirs, Tree.namesAt]
    unfold archiveFile
    rcases hensure : s.ensureArchive Tree.fileSystem p with ⟨fault | _, q⟩ <;> rw [hensure] at hseen
    · simp [Outcome.hasLeft, ← hseen]
    · rw [← hseen]
      exact mem_namesAt_moveFile hname (dirs_ne hdirs) hne
  · rw [deleteFile_tree, components_entryPath hname]
    rcases p.store.allowRemoval (s.entryPath name) with fault | _
    · simp [Outcome.hasLeft]
    · simp [Outcome.hasLeft, mem_namesAt_without_source]

/-! ## What is passed over -/

/-- **What is passed over** is a directory that can be looked at. -/
theorem handleName_eq_skipped_iff (hname : Path.IsName (Utf8.encode name))
    (hdirs : s.workingDir.components ≠ s.archiveDir.components) :
    (s.handleName name p).1 = .skipped ↔
      p.store.refuses .metadata (s.source name) = false ∧
        p.store.kindAt? (s.source name) = some true := by
  constructor
  · intro h
    have hnone : p.store.fileAt? (s.source name) = none := by
      refine (p.store.fileAt?_cases (s.source name)).resolve_right ?_
      rintro ⟨contents, len, hfile⟩
      -- no fate of a file is told in this way
      have hfate := fate_handleName hname hdirs hfile
      rw [h] at hfate
      generalize classify len s.threshold = disposition at hfate
      cases hfate
    rw [handleName, handle_tree] at h
    cases hmeta : p.store.metadata (s.entryPath name) with
    | error fault =>
        rw [hmeta] at h
        cases h
    | ok info =>
        rw [Tree.metadata_eq_ok_iff, components_entryPath hname] at hmeta
        refine ⟨hmeta.1, Tree.kindAt?_of_no_file ?_ hnone⟩
        obtain ⟨e, he, -⟩ := Option.map_eq_some_iff.mp hmeta.2
        simp [Tree.kindAt?, he]
  · rintro ⟨hfree, hkind⟩
    obtain ⟨children, hfind⟩ := Tree.exists_children hkind
    have hmeta : p.store.metadata (s.entryPath name) = .ok (Entry.dir children).metadata := by
      rw [Tree.metadata_eq_ok_iff, components_entryPath hname, hfind]
      exact ⟨hfree, rfl⟩
    rw [handleName, handle_tree, hmeta]
    rfl

/-- What is passed over changes nothing. -/
theorem handleName_of_skipped (hname : Path.IsName (Utf8.encode name))
    (hdirs : s.workingDir.components ≠ s.archiveDir.components)
    (h : (s.handleName name p).1 = .skipped) : (s.handleName name p).2 = p :=
  handleName_of_no_file hname
    (Tree.no_file_of_dir ((handleName_eq_skipped_iff hname hdirs).mp h).2)

/-! ## All names of a listing -/

section Names

variable {names : List String}

/-- **Handling names takes those out of the listing that have left.** -/
theorem mem_namesAt_handleNames (hnames : ∀ name ∈ names, Path.IsName (Utf8.encode name))
    (hdirs : ¬s.workingDir.components <+: s.archiveDir.components)
    (hne : ∀ name ∈ names, s.workingDir.components ≠ s.target name) :
    other ∈ (s.handleNames names p).2.namesAt s.workingDir.components ↔
      other ∈ p.store.namesAt s.workingDir.components ∧
        ∀ outcome, (other, outcome) ∈ (s.handleNames names p).1 → outcome.hasLeft = false := by
  induction names generalizing p with
  | nil => simp [handleNames, handleAll]
  | cons name names ih =>
      have hname := hnames name List.mem_cons_self
      rw [handleNames_cons s hname]
      dsimp only
      rw [ih (fun other hmem => hnames other (List.mem_cons_of_mem _ hmem))
          fun other hmem => hne other (List.mem_cons_of_mem _ hmem),
        mem_namesAt_handleName hname hdirs (hne name List.mem_cons_self), and_assoc]
      refine and_congr_right fun _ => ⟨?_, fun h => ⟨?_, fun outcome hmem => ?_⟩⟩
      · rintro ⟨hfirst, hrest⟩ outcome hmem
        rcases List.mem_cons.mp hmem with heq | hmem
        · obtain ⟨rfl, rfl⟩ := Prod.mk.inj heq
          exact hfirst rfl
        · exact hrest outcome hmem
      · rintro rfl
        exact h _ List.mem_cons_self
      · exact h outcome (List.mem_cons_of_mem _ hmem)

/-- The working directory can still be listed after the names have been handled. -/
theorem Listable.handleNames (h : s.Listable p.store)
    (hnames : ∀ name ∈ names, Path.IsName (Utf8.encode name))
    (hdirs : ¬s.workingDir.components <+: s.archiveDir.components)
    (hne : ∀ name ∈ names, s.workingDir.components ≠ s.target name) :
    s.Listable (s.handleNames names p).2 := by
  rw [handleNames_store s hnames]
  exact s.passAfter_preserves (motive := fun p => s.Listable p.store)
    (fun name hmem _ h => h.handleName (hnames name hmem) hdirs (hne name hmem)) h

/-- What is to fail is still to fail. -/
theorem failing_handleNames (hnames : ∀ name ∈ names, Path.IsName (Utf8.encode name)) :
    (s.handleNames names p).2.failing = p.store.failing := by
  rw [handleNames_store s hnames]
  exact s.passAfter_preserves (motive := fun q => q.store.failing = p.store.failing)
    (fun name hmem q h => (failing_handleName (hnames name hmem) q).trans h) rfl

/-- **A directory that was passed over** is one afterwards, and can be looked at. -/
theorem dir_of_mem_skipped (hnames : ∀ name ∈ names, Path.IsName (Utf8.encode name))
    (hdirs : s.workingDir.components ≠ s.archiveDir.components) (hnodup : names.Nodup)
    (h : (name, .skipped) ∈ (s.handleNames names p).1) :
    (s.handleNames names p).2.refuses .metadata (s.source name) = false ∧
      (s.handleNames names p).2.kindAt? (s.source name) = some true := by
  have hmem : name ∈ names := by
    rw [← names_handleNames s hnames p]
    exact List.mem_map_of_mem h
  have hname := hnames name hmem
  obtain ⟨front, back, -, hback, -, hbacks, houtcome, hstore⟩ := s.exists_turn hnames hnodup hmem p
  -- it is one when its turn is over, and the names behind it leave it alone
  have hskipped := ((houtcome _).mp h).symm
  rw [hstore, handleName_of_skipped hname hdirs hskipped]
  refine s.passAfter_preserves
    (motive := fun q => q.store.refuses .metadata (s.source name) = false ∧
      q.store.kindAt? (s.source name) = some true) (fun other hother q hq => ⟨?_, ?_⟩)
    ((handleName_eq_skipped_iff hname hdirs).mp hskipped)
  · rw [Tree.refuses, failing_handleName (hbacks other hother)]
    exact hq.1
  · exact kindAt?_source_handleName (hbacks other hother) hdirs
      (fun heq : name = other => hback (heq ▸ hother)) hq.2

/-- **Directories that can be looked at** are passed over, and nothing is changed. -/
theorem handleNames_of_dirs (hnames : ∀ name ∈ names, Path.IsName (Utf8.encode name))
    (hdirs : s.workingDir.components ≠ s.archiveDir.components)
    (h : ∀ name ∈ names, p.store.refuses .metadata (s.source name) = false ∧
      p.store.kindAt? (s.source name) = some true) :
    s.handleNames names p = (names.map fun name => (name, .skipped), p.store) := by
  induction names with
  | nil => rfl
  | cons name names ih =>
      have hname := hnames name List.mem_cons_self
      have hskipped := (handleName_eq_skipped_iff hname hdirs).mpr (h name List.mem_cons_self)
      rw [handleNames_cons s hname, hskipped, handleName_of_skipped hname hdirs hskipped,
        ih (fun other hmem => hnames other (List.mem_cons_of_mem _ hmem))
          fun other hmem => h other (List.mem_cons_of_mem _ hmem)]
      rfl

/-- **What a sweep without a failure leaves listed** are the names that it passed over. -/
theorem mem_namesAt_iff_skipped (hnames : ∀ name ∈ names, Path.IsName (Utf8.encode name))
    (hdirs : ¬s.workingDir.components <+: s.archiveDir.components)
    (hne : ∀ name ∈ names, s.workingDir.components ≠ s.target name) (hnodup : names.Nodup)
    (hlisted : ∀ name, name ∈ names ↔ name ∈ p.store.namesAt s.workingDir.components)
    (hclean : ∀ mishap, (name, .failed mishap) ∉ (s.handleNames names p).1) :
    name ∈ (s.handleNames names p).2.namesAt s.workingDir.components ↔
      (name, .skipped) ∈ (s.handleNames names p).1 := by
  have htold := names_handleNames s hnames p
  rw [mem_namesAt_handleNames hnames hdirs hne, ← hlisted]
  constructor
  · rintro ⟨hmem, hstays⟩
    rw [← htold] at hmem
    obtain ⟨⟨_, outcome⟩, hentry, rfl⟩ := List.mem_map.mp hmem
    cases outcome with
    | archived => cases hstays _ hentry
    | deleted => cases hstays _ hentry
    | skipped => exact hentry
    | failed mishap => exact absurd hentry (hclean mishap)
  · intro hskipped
    have hmem : name ∈ names := htold ▸ List.mem_map_of_mem hskipped
    refine ⟨hmem, fun outcome hentry => ?_⟩
    -- a name is told of once
    have hsame := List.inj_on_of_nodup_map (htold.symm ▸ hnodup) hentry hskipped rfl
    rw [(Prod.mk.inj hsame).2]
    rfl

end Names

/-- **A sweep of a working directory that holds directories only** passes over them and changes
nothing. -/
theorem Listable.sweep_of_dirs (h : s.Listable t)
    (hdirs : s.workingDir.components ≠ s.archiveDir.components)
    (hfree : t.refuses .readDir s.workingDir.components = false)
    (hholds : ∀ name ∈ t.namesAt s.workingDir.components,
      t.refuses .metadata (s.source name) = false ∧ t.kindAt? (s.source name) = some true) :
    ∃ report, s.sweep Tree.fileSystem t = (.ok report, t) ∧
      report.archived = [] ∧ report.deleted = [] ∧ report.failures = [] ∧
        InByteOrder report.skipped ∧
          ∀ name, name ∈ report.skipped ↔ name ∈ t.namesAt s.workingDir.components := by
  obtain ⟨names, horder, hlisted, hnames, hsweep⟩ := h.exists_names hfree
  rw [handleNames_of_dirs hnames hdirs fun name hmem => hholds name ((hlisted name).mp hmem)] at hsweep
  obtain ⟨harchived, hdeleted, hfailures, hskipped⟩ :=
    Report.lists_of_skipped (r := { entries := names.map fun name => (name, .skipped) }) rfl
  refine ⟨_, hsweep, harchived, hdeleted, hfailures, ?_⟩
  rw [hskipped]
  exact ⟨horder, hlisted⟩

/-- **To sweep again after a sweep without a failure changes nothing.** Take a tree that edits lead to,
with whatever operations are to fail, and an archive directory that is neither the working directory nor
inside it, and let no listed name lead to a directory in the archive. If a sweep ends well and its report
is clean, a second sweep ends well, archives and deletes nothing, fails nowhere, passes over the same names
in the same order, and leaves the tree as it is. -/
theorem clean_sweep_idempotent {after : Tree} (ht : t.Reachable)
    (hdirs : ¬s.workingDir.components <+: s.archiveDir.components)
    (htargets : ∀ name ∈ t.list s.workingDir, t.isDir (s.archivePath name) = false) {report : Report}
    (h : s.sweep Tree.fileSystem t = (.ok report, after)) (hclean : report.isClean = true) :
    ∃ again, s.sweep Tree.fileSystem after = (.ok again, after) ∧
      again.archived = [] ∧ again.deleted = [] ∧ again.failures = [] ∧
        again.skipped = report.skipped := by
  obtain ⟨hlistable, hfree, names, horder, hlisted, hnames, hentries, rfl⟩ :=
    exists_order_of_sweep ht.tidy h
  -- no file comes into the archive where the working directory is
  have hne : ∀ name ∈ names, s.workingDir.components ≠ s.target name := by
    intro name hmem heq
    have htarget := htargets name (Tree.mem_list_iff_namesAt.mpr ((hlisted name).mp hmem))
    rw [← Bool.not_eq_true, Tree.isDir_iff, components_archivePath (hnames name hmem), ← heq] at htarget
    exact htarget (Tree.isDir_iff.mp hlistable.working)
  have hleft (name : String) :
      name ∈ (s.handleNames names { store := t }).2.namesAt s.workingDir.components ↔
        (name, .skipped) ∈ (s.handleNames names { store := t }).1 := by
    refine mem_namesAt_iff_skipped hnames hdirs hne horder.nodup hlisted fun mishap hfailed => ?_
    rw [Report.isClean, List.isEmpty_iff] at hclean
    rw [← hentries, ← Report.mem_failures, hclean] at hfailed
    exact List.not_mem_nil hfailed
  -- what is left are directories that can be looked at
  have hfree' : (s.handleNames names { store := t }).2.refuses .readDir s.workingDir.components =
      false := by
    rw [Tree.refuses, failing_handleNames hnames]
    exact hfree
  obtain ⟨again, hagain, harchived, hdeleted, hfailures, horder', hskipped⟩ :=
    (Listable.handleNames (p := { store := t }) hlistable hnames hdirs hne).sweep_of_dirs (dirs_ne hdirs)
      hfree' fun name hmem =>
        dir_of_mem_skipped hnames (dirs_ne hdirs) horder.nodup ((hleft name).mp hmem)
  refine ⟨again, hagain, harchived, hdeleted, hfailures, horder'.eq_of_mem_iff ?_ fun name => ?_⟩
  · exact inByteOrder_of_report horder (hentries ▸ names_handleNames s hnames _) (by simp)
  · rw [hskipped, hleft, Report.skipped, Report.mem_names, hentries]

/-- What is in the tree, for an archive directory that is to be made elsewhere. -/
theorem nestedTree_apart :
    nestedTree.readDir hundredMegabytes.workingDir =
        .ok [.ofText "/run/a.dat", .ofText "/run/sub"] ∧
      nestedTree.find? hundredMegabytes.workingDir.components = some (.dir ["a.dat", "sub"]) ∧
        ∀ name ∈ ["a.dat", "sub"], nestedTree.isDir (hundredMegabytes.archivePath name) = false := by
  decide +kernel

/-- The first sweep archives the file and passes over the directory. -/
theorem nestedTree_sweep :
    ∃ report after, hundredMegabytes.sweep Tree.fileSystem nestedTree = (.ok report, after) ∧
      report.isClean = true ∧ report.archived = ["a.dat"] ∧ report.skipped = ["sub"] := by
  have horder : inOrder [.ofText "/run/a.dat", .ofText "/run/sub"] =
      [.ofText "/run/a.dat", .ofText "/run/sub"] :=
    List.mergeSort_of_pairwise (by decide +kernel)
  rw [sweep_tree, nestedTree_apart.1]
  dsimp only
  rw [horder]
  refine ⟨_, _, rfl, ?_⟩
  decide +kernel

/-- The second sweep finds the directory only. -/
theorem nestedTree_swept_twice :
    ∃ report after again, hundredMegabytes.sweep Tree.fileSystem nestedTree = (.ok report, after) ∧
      report.archived = ["a.dat"] ∧ hundredMegabytes.sweep Tree.fileSystem after = (.ok again, after) ∧
        again.archived = [] ∧ again.skipped = ["sub"] := by
  obtain ⟨report, after, hsweep, hclean, harchived, hskipped⟩ := nestedTree_sweep
  obtain ⟨-, hlisted, htargets⟩ := nestedTree_apart
  have hnames : ∀ name ∈ nestedTree.list hundredMegabytes.workingDir,
      nestedTree.isDir (hundredMegabytes.archivePath name) = false := by
    intro name hmem
    rw [Tree.mem_list_iff_namesAt, Tree.namesAt_of_dir hlisted] at hmem
    exact htargets name hmem
  obtain ⟨again, hagain, hnone, -, -, hsame⟩ := clean_sweep_idempotent nestedTree_reachable
    hundredMegabytes_not_inside hnames hsweep hclean
  exact ⟨report, after, again, hsweep, harchived, hagain, hnone, hsame.trans hskipped⟩

end Sweeper

end RunSweep
