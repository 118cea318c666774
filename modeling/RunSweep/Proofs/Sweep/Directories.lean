import RunSweep.Proofs.Sweep.Conservation

/-!
# Directories and the files that come into the archive

A tree lets a file take the place of a directory: neither `rename` nor `copy` looks at what its target
is. So a sweep loses a directory if and only if a file comes into the archive under its name. Nothing
else that a sweep does touches a directory, and one that is lost is not made again. All this holds of any
tree, whatever it lists and however its paths are spelled.
-/

namespace RunSweep

namespace Tree

variable {t : Tree} {place other : Place}

/-- Whether every entry lies in a directory that lists it, as far as it has a parent and a name. -/
def isAnchored (t : Tree) : Bool :=
  t.entries.all fun (place, _) =>
    match place.parent? with
    | none => true
    | some parent =>
        match t.find? parent with
        | some (.dir children) => place.name?.all fun name => children.contains name
        | _ => false

/-- Removing an entry makes no directory. -/
theorem no_dir_without (h : t.kindAt? other ≠ some true) : (t.without place).kindAt? other ≠ some true := by
  by_cases heq : other = place
  · rw [heq, kindAt?_without_self]
    decide
  · rw [kindAt?_without_of_ne _ heq]
    exact h

/-- Neither does putting a file somewhere. -/
theorem no_dir_withEntry {e : Entry} (he : e.isDir = false) (h : t.kindAt? other ≠ some true) :
    (t.withEntry place e).kindAt? other ≠ some true := by
  by_cases heq : other = place
  · rw [heq, kindAt?_withEntry_self, he]
    decide
  · rw [kindAt?_withEntry_of_ne _ _ heq]
    exact h

/-- A directory is not where a file is that may be removed. -/
theorem ne_of_allowRemoval {path : Path} {e : Entry} (h : t.kindAt? place = some true)
    (hallowed : t.allowRemoval path = .ok e) : place ≠ path.components := by
  rintro rfl
  rw [kindAt?_of_fileAt? (allowRemoval_eq_ok hallowed)] at h
  cases h

end Tree

namespace Sweeper

variable {s : Sweeper} {place : Place}

/-! ## One file -/

/-- **Moving a file** replaces the directory at its target, if there is one, as soon as the file is
there; every other directory stays. -/
theorem dir_moveFile {source target : Path} {t : Tree} (h : t.kindAt? place = some true) :
    (moveFile Tree.fileSystem source target t).2.kindAt? place =
      some (!((moveFile Tree.fileSystem source target t).1.hasArrived &&
        place == target.components)) := by
  -- there is no directory where the file was
  have hsource {operation : Operation} {e : Entry}
      (hallowed : t.allowMove operation source target = .ok e) :
      place ≠ source.components ∧ e.isDir = false := by
    have hfile := Tree.allowMove_eq_ok hallowed
    refine ⟨?_, (Tree.fileAt?_eq_some.mp hfile).2⟩
    rintro rfl
    rw [Tree.kindAt?_of_fileAt? hfile] at h
    cases h
  have hwithEntry {u : Tree} {e : Entry} (he : e.isDir = false) (hu : u.kindAt? place = some true) :
      (u.withEntry target.components e).kindAt? place = some (!(place == target.components)) := by
    by_cases htarget : place = target.components
    · rw [← htarget, Tree.kindAt?_withEntry_self, he, beq_self_eq_true]
      rfl
    · rw [Tree.kindAt?_withEntry_of_ne _ _ htarget, hu, beq_false_of_ne htarget]
      rfl
  rw [moveFile_tree]
  rcases hrename : t.allowMove .rename source target with onRename | e
  · rcases hcopy : t.allowMove .copy source target with onCopy | e
    · exact h
    · obtain ⟨hne, he⟩ := hsource hcopy
      dsimp only
      rcases (t.withEntry target.components e).allowRemoval source with fault | _
      · exact hwithEntry he h
      · exact (Tree.kindAt?_without_of_ne _ hne).trans (hwithEntry he h)
  · obtain ⟨hne, he⟩ := hsource hrename
    exact hwithEntry he ((Tree.kindAt?_without_of_ne _ hne).trans h)

/-- **Handling a path** loses the directory that has the file's name in the archive, if the file gets
there, and no other. -/
theorem dir_handle (s : Sweeper) (path : Path) (name : Bytes) {p : Pass Tree}
    (h : p.store.kindAt? place = some true) :
    (s.handle Tree.fileSystem path name p).2.store.kindAt? place =
      some (!((s.handle Tree.fileSystem path name p).1.hasArrived &&
        place == (s.archiveDir.join name).components)) := by
  rcases s.handle_cases path name p with
    ⟨outcome, hhandle, houtcome⟩ | ⟨p', _, hhandle, hprepared, rfl⟩ | ⟨e, hhandle, hallowed⟩
  · rw [hhandle]
    dsimp only
    rw [houtcome, h]
    rfl
  -- making the archive directory does no harm
  · have hkept : p'.store.kindAt? place = some true := by
      rcases hprepared.store with hsame | ⟨-, hmade⟩
      · rw [hsame, h]
      · rw [hmade]
        exact Tree.kindAt?_ensureDir_of_some h
    rw [hhandle]
    exact dir_moveFile hkept
  · rw [hhandle]
    exact (Tree.kindAt?_without_of_ne _ (Tree.ne_of_allowRemoval h hallowed)).trans h

/-! ## No directory is made again -/

/-- A file comes into the archive after the archive directory has been seen to. -/
theorem settled_handle {path : Path} {name : Bytes} {p : Pass Tree}
    (h : s.Settled p ∨ (s.handle Tree.fileSystem path name p).1.hasArrived = true) :
    s.Settled (s.handle Tree.fileSystem path name p).2 := by
  rcases s.handle_cases path name p with
    ⟨outcome, hhandle, houtcome⟩ | ⟨p', _, hhandle, hprepared, rfl⟩ | ⟨e, hhandle, -⟩
  · rw [hhandle] at h ⊢
    exact h.resolve_right (Bool.eq_false_iff.mp houtcome)
  · rw [hhandle]
    exact hprepared.settled
  · rw [hhandle] at h ⊢
    exact h.resolve_right Bool.false_ne_true

/-- Moving a file makes no directory. -/
theorem no_dir_moveFile {source target : Path} {t : Tree} (h : t.kindAt? place ≠ some true) :
    (moveFile Tree.fileSystem source target t).2.kindAt? place ≠ some true := by
  have hfile {operation : Operation} {e : Entry}
      (hallowed : t.allowMove operation source target = .ok e) : e.isDir = false :=
    (Tree.fileAt?_eq_some.mp (Tree.allowMove_eq_ok hallowed)).2
  rw [moveFile_tree]
  rcases hrename : t.allowMove .rename source target with onRename | e
  · rcases hcopy : t.allowMove .copy source target with onCopy | e
    · exact h
    · have hcopied : (t.withEntry target.components e).kindAt? place ≠ some true :=
        Tree.no_dir_withEntry (hfile hcopy) h
      dsimp only
      rcases (t.withEntry target.components e).allowRemoval source with fault | _
      · exact hcopied
      · exact Tree.no_dir_without hcopied
  · exact Tree.no_dir_withEntry (hfile hrename) (Tree.no_dir_without h)

/-- **Once the archive directory has been seen to, no directory is made.** -/
theorem no_dir_handle {path : Path} {name : Bytes} {p : Pass Tree} (hsettled : s.Settled p)
    (h : p.store.kindAt? place ≠ some true) :
    (s.handle Tree.fileSystem path name p).2.store.kindAt? place ≠ some true := by
  rcases s.handle_cases path name p with
    ⟨outcome, hhandle, -⟩ | ⟨p', _, hhandle, hprepared, rfl⟩ | ⟨e, hhandle, -⟩
  · rw [hhandle]
    exact h
  · rw [hhandle]
    rw [← hprepared.same hsettled] at h
    exact no_dir_moveFile h
  · rw [hhandle]
    exact Tree.no_dir_without h

/-- No directory is made again while the rest is handled. -/
theorem no_dir_handleAll {paths : List Path} {p : Pass Tree} (hsettled : s.Settled p)
    (h : p.store.kindAt? place ≠ some true) :
    (s.handleAll Tree.fileSystem paths p).2.kindAt? place ≠ some true := by
  induction paths generalizing p with
  | nil => exact h
  | cons path paths ih =>
      rw [handleAll]
      split
      · exact ih hsettled h
      · exact ih (settled_handle (.inl hsettled)) (no_dir_handle hsettled h)

/-! ## The whole sweep -/

/-- **The names under which files have come into the archive**, for the names that were handled and what
is told of them. -/
def arrivals (names : List Bytes) (entries : List (String × Outcome)) : List Bytes :=
  ((names.zip entries).filter fun (_, _, outcome) => outcome.hasArrived).map Prod.fst

theorem arrivals_cons (name : Bytes) (names : List Bytes) (entry : String × Outcome)
    (entries : List (String × Outcome)) :
    arrivals (name :: names) (entry :: entries) =
      if entry.2.hasArrived then name :: arrivals names entries else arrivals names entries := by
  unfold arrivals
  rw [List.zip_cons_cons, List.filter_cons]
  split_ifs <;> rfl

/-- **Handling a listing loses the directories that have the names of arrivals**, and no others. -/
theorem dir_handleAll {paths : List Path} {p : Pass Tree} (h : p.store.kindAt? place = some true) :
    (s.handleAll Tree.fileSystem paths p).2.kindAt? place ≠ some true ↔
      ∃ name ∈ arrivals (paths.filterMap Path.fileName?) (s.handleAll Tree.fileSystem paths p).1,
        place = (s.archiveDir.join name).components := by
  induction paths generalizing p with
  | nil => simp [handleAll, arrivals, h]
  | cons path paths ih =>
      rw [handleAll]
      cases hname : path.fileName? with
      | none =>
          rw [List.filterMap_cons_none hname]
          exact ih h
      | some name =>
          rw [List.filterMap_cons_some hname, arrivals_cons]
          dsimp only
          have hkind := s.dir_handle path name h
          by_cases harrived :
              (s.handle Tree.fileSystem path name p).1.hasArrived = true
          · rw [if_pos harrived, List.exists_mem_cons_iff]
            rw [harrived, Bool.true_and] at hkind
            by_cases hplace : place = (s.archiveDir.join name).components
            -- the directory is lost here, and not made again
            · rw [beq_iff_eq.mpr hplace] at hkind
              have hlost : (s.handle Tree.fileSystem path name p).2.store.kindAt? place ≠
                  some true := by
                rw [hkind]
                decide
              exact ⟨fun _ => .inl hplace, fun _ => no_dir_handleAll (settled_handle (.inr harrived)) hlost⟩
            · rw [beq_false_of_ne hplace] at hkind
              rw [or_iff_right hplace]
              exact ih hkind
          · rw [if_neg harrived]
            rw [Bool.eq_false_iff.mpr harrived] at hkind
            exact ih hkind

/-- **A sweep keeps every directory, except where a file comes into the archive.** In any tree, with
whatever operations are to fail, a directory is lost in a sweep if and only if a file has come into the
archive under its name; a sweep that cannot list the working directory loses none. -/
theorem sweep_keeps_directories {t after : Tree} {path : Path} (hdir : t.isDir path = true)
    {result : Except Fault Report} (h : s.sweep Tree.fileSystem t = (result, after)) :
    after.isDir path = false ↔
      ∃ paths report name, t.readDir s.workingDir = .ok paths ∧ result = .ok report ∧
        name ∈ arrivals ((inOrder paths).filterMap Path.fileName?) report.entries ∧
          path.components = (s.archiveDir.join name).components := by
  have hisDir (u : Tree) : u.isDir path = true ↔ u.kindAt? path.components = some true := by
    rw [Tree.isDir_eq]
    rcases u.kindAt? path.components with _ | kind <;> simp
  have hkind := (hisDir t).mp hdir
  rw [← Bool.not_eq_true, hisDir]
  rw [sweep_tree] at h
  rcases hread : t.readDir s.workingDir with fault | paths
  · rw [hread] at h
    cases h
    simp [hkind]
  · rw [hread] at h
    cases h
    rw [← ne_eq, dir_handleAll (p := { store := t }) hkind]
    constructor
    · rintro ⟨name, harrived, hplace⟩
      exact ⟨paths, _, name, rfl, rfl, harrived, hplace⟩
    · rintro ⟨_, _, name, ⟨⟩, ⟨⟩, harrived, hplace⟩
      exact ⟨name, harrived, hplace⟩

/-! ## A directory that is lost -/

/-- A working directory with a large file, and an archive directory with a directory of that name. -/
def collidingTree : Tree :=
  (Tree.empty.addSizedFile (.ofText "/run/a.dat") 200000000).addDir (.ofText "/store/a.dat")

/-- What is in the tree. -/
theorem collidingTree_holds :
    collidingTree.readDir hundredMegabytes.workingDir = .ok [.ofText "/run/a.dat"] ∧
      collidingTree.isDir (.ofText "/store/a.dat") = true ∧
        collidingTree.isDir (.ofText "/store") = true ∧ collidingTree.isAnchored = true := by
  decide +kernel

/-- How its sweep ends. -/
def collidingSweep : Except Fault Report × Tree :=
  hundredMegabytes.sweep Tree.fileSystem collidingTree

/-- The file is archived, and stands where the directory was. -/
theorem collidingTree_sweep :
    ∃ report after, hundredMegabytes.sweep Tree.fileSystem collidingTree = (.ok report, after) ∧
      report.entries = [("a.dat", .archived)] ∧ after.isDir (.ofText "/store/a.dat") = false ∧
        after.contains (.ofText "/run/a.dat") = false := by
  have hended : (collidingSweep.1.toOption.map Report.entries,
      collidingSweep.2.isDir (.ofText "/store/a.dat"),
      collidingSweep.2.contains (.ofText "/run/a.dat")) =
        (some [("a.dat", .archived)], false, false) := by
    decide +kernel
  obtain ⟨hentries, hplaces⟩ := Prod.mk.inj hended
  obtain ⟨hdir, hgone⟩ := Prod.mk.inj hplaces
  obtain ⟨report, hok, hreport⟩ := Option.map_eq_some_iff.mp hentries
  rcases hsweep : collidingSweep with ⟨fault | report', after⟩
  · rw [hsweep] at hok
    cases hok
  · rw [hsweep] at hok hdir hgone
    cases hok
    exact ⟨_, after, hsweep, hreport, hdir, hgone⟩

/-- The directory with the name of the file is lost, and the one above it is kept. -/
theorem only_namesake_lost :
    ∃ report after, hundredMegabytes.sweep Tree.fileSystem collidingTree = (.ok report, after) ∧
      after.isDir (.ofText "/store/a.dat") = false ∧ after.isDir (.ofText "/store") = true := by
  obtain ⟨report, after, hsweep, hentries, -⟩ := collidingTree_sweep
  obtain ⟨hread, hdir, habove, -⟩ := collidingTree_holds
  -- the only arrival has the place of the one directory, and not of the other
  have harrivals :
      arrivals ((inOrder [.ofText "/run/a.dat"]).filterMap Path.fileName?) report.entries =
        [Utf8.encode "a.dat"] := by
    rw [hentries]
    decide +kernel
  have hplaces : (Path.ofText "/store/a.dat").components =
        (hundredMegabytes.archiveDir.join (Utf8.encode "a.dat")).components ∧
      (Path.ofText "/store").components ≠
        (hundredMegabytes.archiveDir.join (Utf8.encode "a.dat")).components := by
    decide +kernel
  refine ⟨report, after, hsweep, ?_, ?_⟩
  · apply (sweep_keeps_directories hdir hsweep).mpr
    refine ⟨_, report, _, hread, rfl, ?_, hplaces.1⟩
    rw [harrivals]
    exact List.mem_singleton_self _
  · by_contra hlost
    obtain ⟨paths, report', name, hread', hok, harrived, hname⟩ :=
      (sweep_keeps_directories habove hsweep).mp (Bool.eq_false_iff.mpr hlost)
    cases hok
    obtain rfl := Except.ok.inj (hread.symm.trans hread')
    rw [harrivals, List.mem_singleton] at harrived
    exact hplaces.2 (harrived ▸ hname)

/-- **Directories are not safe from a sweep**: every entry of this tree lies in a directory that lists
it, and the two directories of the sweep differ; yet the file is archived without a failure, and a
directory is lost. -/
theorem sweep_loses_directory :
    collidingTree.isAnchored = true ∧
      hundredMegabytes.workingDir.components ≠ hundredMegabytes.archiveDir.components ∧
      collidingTree.isDir (.ofText "/store/a.dat") = true ∧
      ∃ report after, hundredMegabytes.sweep Tree.fileSystem collidingTree = (.ok report, after) ∧
        report.archived = ["a.dat"] ∧ report.failures = [] ∧
        after.isDir (.ofText "/store/a.dat") = false ∧
        after.contains (.ofText "/run/a.dat") = false := by
  obtain ⟨-, hbefore, -, hanchored⟩ := collidingTree_holds
  obtain ⟨report, after, hsweep, hentries, hdir, hgone⟩ := collidingTree_sweep
  refine ⟨hanchored, hundredMegabytes_dirs, hbefore, report, after, hsweep, ?_, ?_, hdir, hgone⟩
  · rw [Report.archived, Report.names, hentries]
    rfl
  · rw [Report.failures, hentries]
    rfl

end Sweeper

end RunSweep
