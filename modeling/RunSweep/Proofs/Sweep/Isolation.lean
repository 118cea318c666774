import RunSweep.Proofs.Sweep.Conservation

/-!
# Files do not get in each other's way

What becomes of a listed file is what would become of it if it were handled first, whatever happens to
the names before it. The pass does change from name to name: the archive directory may have been made by
then, and may be known to be there. So `prospect` asks what seeing to the archive directory would lead
to, and this stays the same. Two passes are `Alike` for a name if they have the same prospect and agree on
the name's places, and then they give it the same outcome.

Failures that are injected on some files therefore stay with those files.
-/

namespace RunSweep.Sweeper

variable {s : Sweeper} {name other : String}

/-! ## The prospect of the archive directory -/

/-- What seeing to the archive directory would lead to: a fault, or what is there afterwards. -/
def prospect (s : Sweeper) (p : Pass Tree) : Except Fault (Option Bool) :=
  match s.ensureArchive Tree.fileSystem p with
  | (.ok _, after) => .ok (after.store.kindAt? s.archiveDir.components)
  | (.error fault, _) => .error fault

theorem prospect_eq (p : Pass Tree) :
    s.prospect p =
      if p.ready || !s.createArchiveDir then .ok (p.store.kindAt? s.archiveDir.components)
      else if p.store.isDir s.archiveDir then .ok (p.store.kindAt? s.archiveDir.components)
      else
        (p.store.allowDir s.archiveDir).map fun _ =>
          some ((p.store.kindAt? s.archiveDir.components).getD true) := by
  rw [prospect, ensureArchive_tree]
  split_ifs
  · rfl
  · rfl
  rcases p.store.allowDir s.archiveDir with fault | _
  · rfl
  · exact congrArg Except.ok (Tree.kindAt?_ensureDir_self _ _)

/-- What the prospect depends on. -/
theorem prospect_congr {p q : Pass Tree} (hready : p.ready = q.ready)
    (hkind : p.store.kindAt? s.archiveDir.components = q.store.kindAt? s.archiveDir.components)
    (hrefuses : p.store.refuses .createDir s.archiveDir.components =
      q.store.refuses .createDir s.archiveDir.components) :
    s.prospect p = s.prospect q := by
  rw [prospect_eq, prospect_eq, Tree.isDir_eq, Tree.isDir_eq, Tree.allowDir_eq, Tree.allowDir_eq,
    hready, hkind, hrefuses]

/-- Seeing to the archive directory leads to what it was to lead to. -/
theorem prospect_ensureArchive (p : Pass Tree) :
    s.prospect (s.ensureArchive Tree.fileSystem p).2 = s.prospect p := by
  rw [prospect_eq p, ensureArchive_tree]
  split_ifs with hready hthere
  · rw [prospect_eq, if_pos hready]
  · rw [prospect_eq, if_pos (Bool.true_or _)]
  · cases hallowed : p.store.allowDir s.archiveDir with
    | error fault => rw [prospect_eq, if_neg hready, if_neg hthere, hallowed]
    | ok =>
        rw [prospect_eq, if_pos (Bool.true_or _), Tree.kindAt?_ensureDir_self]
        rfl

/-! ## Passes that are alike for a name -/

/-- **What the handling of a name depends on**: the operations that are to fail on its path, what there is
under it in the working directory, the file under it in the archive, and the prospect of the archive
directory. -/
structure Alike (s : Sweeper) (name : String) (p q : Pass Tree) : Prop where
  refuses : ∀ operation,
    p.store.refuses operation (s.source name) = q.store.refuses operation (s.source name)
  entry : p.store.find? (s.source name) = q.store.find? (s.source name)
  archived : p.store.fileAt? (s.target name) = q.store.fileAt? (s.target name)
  prospect : s.prospect p = s.prospect q

theorem Alike.refl (p : Pass Tree) : s.Alike name p p :=
  ⟨fun _ => rfl, rfl, rfl, rfl⟩

theorem Alike.trans {p q r : Pass Tree} (h : s.Alike name p q) (h' : s.Alike name q r) :
    s.Alike name p r where
  refuses operation := (h.refuses operation).trans (h'.refuses operation)
  entry := h.entry.trans h'.entry
  archived := h.archived.trans h'.archived
  prospect := h.prospect.trans h'.prospect

/-- A name in the working directory lies neither at the archive directory nor above it, if that is not
inside the working directory. -/
theorem source_not_above (hdirs : ¬s.workingDir.components <+: s.archiveDir.components) :
    ¬s.source name <+: s.archiveDir.components :=
  fun h => hdirs ((List.prefix_append _ _).trans h)

theorem archiveDir_ne_source (hdirs : ¬s.workingDir.components <+: s.archiveDir.components) :
    s.archiveDir.components ≠ s.source name :=
  fun h => hdirs (h ▸ List.prefix_append _ _)

theorem archiveDir_ne_target : s.archiveDir.components ≠ s.target name := by
  intro h
  exact absurd (congrArg List.length h) (by rw [target, List.length_append]; simp)

theorem dirs_ne (hdirs : ¬s.workingDir.components <+: s.archiveDir.components) :
    s.workingDir.components ≠ s.archiveDir.components :=
  fun h => hdirs (h ▸ List.prefix_refl _)

/-- Whether a file can be moved to the archive depends on its own place and on the archive directory. -/
theorem allowMove_congr (hname : Path.IsName (Utf8.encode name)) {t u : Tree} {operation : Operation}
    (hrefuses : t.refuses operation (s.source name) = u.refuses operation (s.source name))
    (hentry : t.find? (s.source name) = u.find? (s.source name))
    (hkind : t.kindAt? s.archiveDir.components = u.kindAt? s.archiveDir.components) :
    t.allowMove operation (s.entryPath name) (s.archivePath name) =
      u.allowMove operation (s.entryPath name) (s.archivePath name) := by
  have hparent : t.requireParent (s.archivePath name) = u.requireParent (s.archivePath name) := by
    obtain ⟨parent, hparent, hplace⟩ := Path.parent?_join s.archiveDir hname
    unfold Tree.requireParent
    rw [archivePath, hparent]
    dsimp only
    rw [Tree.isDir_eq, Tree.isDir_eq, hplace, hkind]
  unfold Tree.allowMove Tree.requireFile
  rw [hparent, Tree.check_eq, Tree.check_eq, components_entryPath hname, hrefuses, hentry]

/-- Whether a file can be removed depends on its own place. -/
theorem allowRemoval_congr (hname : Path.IsName (Utf8.encode name)) {t u : Tree}
    (hrefuses : t.refuses .removeFile (s.source name) = u.refuses .removeFile (s.source name))
    (hentry : t.find? (s.source name) = u.find? (s.source name)) :
    t.allowRemoval (s.entryPath name) = u.allowRemoval (s.entryPath name) := by
  unfold Tree.allowRemoval Tree.requireFile
  rw [Tree.check_eq, Tree.check_eq, components_entryPath hname, hrefuses, hentry]

theorem metadata_congr (hname : Path.IsName (Utf8.encode name)) {t u : Tree}
    (hrefuses : t.refuses .metadata (s.source name) = u.refuses .metadata (s.source name))
    (hentry : t.find? (s.source name) = u.find? (s.source name)) :
    t.metadata (s.entryPath name) = u.metadata (s.entryPath name) := by
  unfold Tree.metadata
  rw [Tree.check_eq, Tree.check_eq, components_entryPath hname, hrefuses, hentry]

/-- How a move ends depends on its own place and on the archive directory. -/
theorem moveFile_congr (hname : Path.IsName (Utf8.encode name))
    (hdirs : ¬s.workingDir.components <+: s.archiveDir.components) {t u : Tree}
    (hrefuses : ∀ operation,
      t.refuses operation (s.source name) = u.refuses operation (s.source name))
    (hentry : t.find? (s.source name) = u.find? (s.source name))
    (hkind : t.kindAt? s.archiveDir.components = u.kindAt? s.archiveDir.components) :
    (moveFile Tree.fileSystem (s.entryPath name) (s.archivePath name) t).1 =
      (moveFile Tree.fileSystem (s.entryPath name) (s.archivePath name) u).1 := by
  have hrename := allowMove_congr hname (hrefuses .rename) hentry hkind
  have hcopy := allowMove_congr hname (hrefuses .copy) hentry hkind
  -- the copy does not change what is at the source
  have hremoval (e : Entry) :
      (t.withEntry (s.target name) e).allowRemoval (s.entryPath name) =
        (u.withEntry (s.target name) e).allowRemoval (s.entryPath name) := by
    have hne : s.source name ≠ s.target name := source_ne_target (dirs_ne hdirs)
    have hparent : Place.parent? (s.target name) ≠ some (s.source name) := by
      rw [target, Place.parent?_concat]
      exact fun h => archiveDir_ne_source hdirs (Option.some.inj h)
    refine allowRemoval_congr hname ?_ ?_
    · rw [Tree.refuses, Tree.refuses, Tree.failing_withEntry, Tree.failing_withEntry]
      exact hrefuses .removeFile
    · rw [Tree.find?_withEntry_of_ne _ _ hne hparent, Tree.find?_withEntry_of_ne _ _ hne hparent,
        hentry]
  rw [moveFile_tree, moveFile_tree, components_archivePath hname, hrename, hcopy]
  rcases u.allowMove .rename (s.entryPath name) (s.archivePath name) with onRename | e
  · rcases u.allowMove .copy (s.entryPath name) (s.archivePath name) with onCopy | e
    · rfl
    · dsimp only
      rw [hremoval e]
      rcases (u.withEntry (s.target name) e).allowRemoval (s.entryPath name) with _ | _ <;> rfl
  · rfl

/-- Seeing to the archive directory changes nothing but the directory and those above it. -/
theorem find?_ensureArchive {place : Place} (h : ¬place <+: s.archiveDir.components) (p : Pass Tree) :
    (s.ensureArchive Tree.fileSystem p).2.store.find? place = p.store.find? place := by
  rw [ensureArchive_tree]
  split_ifs
  · rfl
  · rfl
  rcases p.store.allowDir s.archiveDir with fault | _
  · rfl
  · exact Tree.find?_ensureDir_of_not_above _ h

theorem failing_ensureArchive (p : Pass Tree) :
    (s.ensureArchive Tree.fileSystem p).2.store.failing = p.store.failing := by
  rw [ensureArchive_tree]
  split_ifs
  · rfl
  · rfl
  rcases p.store.allowDir s.archiveDir with fault | _
  · rfl
  · exact Tree.failing_ensureDir _ _

/-- **Passes that are alike for a name give it the same outcome.** -/
theorem Alike.outcome_eq (hname : Path.IsName (Utf8.encode name))
    (hdirs : ¬s.workingDir.components <+: s.archiveDir.components) {p q : Pass Tree}
    (h : s.Alike name p q) : (s.handleName name p).1 = (s.handleName name q).1 := by
  rw [handleName, handleName, handle_tree, handle_tree,
    metadata_congr hname (h.refuses .metadata) h.entry]
  rcases q.store.metadata (s.entryPath name) with fault | info
  · rfl
  dsimp only
  split_ifs
  · rfl
  cases classify info.len s.threshold with
  | archive =>
      have hprospect := h.prospect
      have hrefuses (operation : Operation) :
          (s.ensureArchive Tree.fileSystem p).2.store.refuses operation (s.source name) =
            (s.ensureArchive Tree.fileSystem q).2.store.refuses operation (s.source name) := by
        rw [Tree.refuses, Tree.refuses, failing_ensureArchive, failing_ensureArchive]
        exact h.refuses operation
      have hentry := (find?_ensureArchive (source_not_above hdirs) p).trans
        (h.entry.trans (find?_ensureArchive (source_not_above hdirs) q).symm)
      -- both passes have the same prospect, so both stop at it or both move the file
      dsimp only
      unfold Sweeper.prospect at hprospect
      unfold archiveFile
      generalize s.ensureArchive Tree.fileSystem p = left at hprospect hrefuses hentry ⊢
      generalize s.ensureArchive Tree.fileSystem q = right at hprospect hrefuses hentry ⊢
      obtain ⟨fault | _, p'⟩ := left <;> obtain ⟨fault' | _, q'⟩ := right
      · rw [Except.error.inj hprospect]
      · cases hprospect
      · cases hprospect
      · exact moveFile_congr hname hdirs hrefuses hentry (Except.ok.inj hprospect)
  | delete =>
      dsimp only
      rw [deleteFile_tree, deleteFile_tree, allowRemoval_congr hname (h.refuses .removeFile) h.entry]
      rcases q.store.allowRemoval (s.entryPath name) with fault | _ <;> rfl

/-- Where there is no file, nothing is done. -/
theorem handleName_of_no_file (hname : Path.IsName (Utf8.encode name)) {p : Pass Tree}
    (h : p.store.fileAt? (s.source name) = none) : (s.handleName name p).2 = p := by
  rw [handleName, handle_tree]
  split
  · rfl
  · rename_i info hinfo
    -- only a directory has metadata without being a file
    have hdir : info.isDir = true := by
      rw [Tree.metadata_eq_ok_iff, components_entryPath hname] at hinfo
      obtain ⟨_ | _, hfind, rfl⟩ := Option.map_eq_some_iff.mp hinfo.2
      · rw [Tree.fileAt?, hfind] at h
        cases h
      · rfl
    rw [if_pos hdir]

/-- **Passes that are alike for a name leave it the same files.** -/
theorem Alike.files_eq (hname : Path.IsName (Utf8.encode name))
    (hdirs : ¬s.workingDir.components <+: s.archiveDir.components) {p q : Pass Tree}
    (h : s.Alike name p q) :
    (s.handleName name p).2.store.fileAt? (s.source name) =
        (s.handleName name q).2.store.fileAt? (s.source name) ∧
      (s.handleName name p).2.store.fileAt? (s.target name) =
        (s.handleName name q).2.store.fileAt? (s.target name) := by
  have hsource : p.store.fileAt? (s.source name) = q.store.fileAt? (s.source name) := by
    rw [Tree.fileAt?, Tree.fileAt?, h.entry]
  rcases q.store.fileAt?_cases (s.source name) with hfile | ⟨contents, len, hfile⟩
  · rw [handleName_of_no_file hname (hsource.trans hfile), handleName_of_no_file hname hfile]
    exact ⟨hsource, h.archived⟩
  · have hp := fate_handleName hname (dirs_ne hdirs) (hsource.trans hfile)
    have hq := fate_handleName hname (dirs_ne hdirs) hfile
    rw [h.outcome_eq hname hdirs] at hp
    exact hp.files_eq hq h.archived

/-! ## Handling another name -/

/-- A move leaves alone whatever stands neither at its source nor at its target. -/
theorem kindAt?_moveFile (hname : Path.IsName (Utf8.encode name)) {t : Tree} {place : Place}
    (hsource : place ≠ s.source name) (htarget : place ≠ s.target name) :
    (moveFile Tree.fileSystem (s.entryPath name) (s.archivePath name) t).2.kindAt? place =
      t.kindAt? place := by
  refine s.moveFile_preserves hname (motive := fun u => u.kindAt? place = t.kindAt? place)
    (fun u hu => ?_) (fun u e _ hu => ?_) rfl
  · rw [Tree.kindAt?_without_of_ne _ hsource, hu]
  · rw [Tree.kindAt?_withEntry_of_ne _ _ htarget, hu]

theorem failing_moveFile (hname : Path.IsName (Utf8.encode name)) (t : Tree) :
    (moveFile Tree.fileSystem (s.entryPath name) (s.archivePath name) t).2.failing = t.failing :=
  s.moveFile_preserves hname (motive := fun u => u.failing = t.failing)
    (fun _ hu => (Tree.failing_without _ _).trans hu)
    (fun _ _ _ hu => (Tree.failing_withEntry _ _ _).trans hu) rfl

theorem failing_handleName (hname : Path.IsName (Utf8.encode name)) (p : Pass Tree) :
    (s.handleName name p).2.store.failing = p.store.failing :=
  s.handleName_preserves hname (motive := fun u => u.failing = p.store.failing) p
    (fun _ _ _ => Tree.failing_ensureDir _ _) (fun _ hu => (Tree.failing_without _ _).trans hu)
    (fun _ _ _ hu => (Tree.failing_withEntry _ _ _).trans hu) rfl

/-- **Handling a name does not change the prospect of the archive directory.** -/
theorem prospect_handleName (hname : Path.IsName (Utf8.encode name))
    (hdirs : ¬s.workingDir.components <+: s.archiveDir.components) (p : Pass Tree) :
    s.prospect (s.handleName name p).2 = s.prospect p := by
  have hsource : s.archiveDir.components ≠ s.source name := archiveDir_ne_source hdirs
  rw [handleName, handle_tree]
  split
  · rfl
  split_ifs
  · rfl
  split
  -- the file itself is moved after the archive directory has been seen to
  · rw [← prospect_ensureArchive p]
    unfold archiveFile
    rcases s.ensureArchive Tree.fileSystem p with ⟨fault | _, p'⟩
    · rfl
    · refine prospect_congr rfl (kindAt?_moveFile hname hsource archiveDir_ne_target) ?_
      exact congrArg (List.contains · _) (failing_moveFile hname p'.store)
  · rw [deleteFile_tree, components_entryPath hname]
    split
    · refine prospect_congr rfl (Tree.kindAt?_without_of_ne _ hsource) ?_
      exact congrArg (List.contains · _) (Tree.failing_without _ _)
    · rfl

/-- **To a name, nothing is changed by handling another.** -/
theorem alike_handleName (hname : Path.IsName (Utf8.encode other))
    (hdirs : ¬s.workingDir.components <+: s.archiveDir.components) (hne : name ≠ other)
    (p : Pass Tree) : s.Alike name (s.handleName other p).2 p := by
  have hsource : s.source name ≠ s.source other := fun h => hne (source_injective h)
  have htarget : s.target name ≠ s.target other := fun h => hne (target_injective h)
  have hcross (a b : String) : s.source a ≠ s.target b := source_ne_target (dirs_ne hdirs)
  refine ⟨fun operation => ?_, ?_, ?_, prospect_handleName hname hdirs p⟩
  · rw [Tree.refuses, Tree.refuses, failing_handleName hname]
  · refine s.handleName_preserves hname p
      (motive := fun u => u.find? (s.source name) = p.store.find? (s.source name))
      (fun _ _ _ => Tree.find?_ensureDir_of_not_above _ (source_not_above hdirs))
      (fun u hu => ?_) (fun u e _ hu => ?_) rfl
    · rw [Tree.find?_without_of_ne _ hsource, hu]
      rw [source, Place.parent?_concat]
      exact fun h => absurd (congrArg List.length (Option.some.inj h)) (by simp [source])
    · rw [Tree.find?_withEntry_of_ne _ _ (hcross _ _), hu]
      rw [target, Place.parent?_concat]
      exact fun h => archiveDir_ne_source hdirs (Option.some.inj h)
  · exact fileAt?_handleName hname p (hcross _ _).symm htarget

/-! ## The whole sweep -/

/-- To a name, nothing is changed by handling others. -/
theorem alike_passAfter (hdirs : ¬s.workingDir.components <+: s.archiveDir.components)
    {others : List String} (hothers : ∀ other ∈ others, Path.IsName (Utf8.encode other))
    (hnot : name ∉ others) (p : Pass Tree) : s.Alike name (s.passAfter others p) p := by
  refine s.passAfter_preserves (motive := fun q => s.Alike name q p) ?_ (.refl p)
  intro other hother q hq
  have hne : name ≠ other := fun heq => hnot (heq ▸ hother)
  exact (alike_handleName (hothers other hother) hdirs hne q).trans hq

/-- **Among the names handled, each fares as if it were the first.** -/
theorem handleNames_alone (hdirs : ¬s.workingDir.components <+: s.archiveDir.components)
    {names : List String} (hnames : ∀ name ∈ names, Path.IsName (Utf8.encode name))
    (hnodup : names.Nodup) (hmem : name ∈ names) (p : Pass Tree) :
    (∀ outcome, (name, outcome) ∈ (s.handleNames names p).1 ↔ outcome = (s.handleName name p).1) ∧
      (s.handleNames names p).2.fileAt? (s.source name) =
          (s.handleName name p).2.store.fileAt? (s.source name) ∧
        (s.handleNames names p).2.fileAt? (s.target name) =
          (s.handleName name p).2.store.fileAt? (s.target name) := by
  have hname := hnames name hmem
  obtain ⟨front, back, hnot_front, hnot_back, hfront, hback, houtcome, hstore⟩ :=
    s.exists_turn hnames hnodup hmem p
  have halike := alike_passAfter hdirs hfront hnot_front p
  obtain ⟨hsource, htarget⟩ := halike.files_eq hname hdirs
  obtain ⟨hsource', htarget'⟩ := fileAt?_passAfter (dirs_ne hdirs) hback hnot_back
    (s.handleName name (s.passAfter front p)).2
  rw [halike.outcome_eq hname hdirs] at houtcome
  rw [hstore]
  exact ⟨houtcome, hsource'.trans hsource, htarget'.trans htarget⟩

/-- **In a sweep every name fares as if it were the only one.** -/
theorem sweep_alone (hdirs : ¬s.workingDir.components <+: s.archiveDir.components)
    {t after : Tree} (ht : t.Tidy) {report : Report}
    (h : s.sweep Tree.fileSystem t = (.ok report, after)) (hlisted : name ∈ t.list s.workingDir) :
    (∀ outcome, (name, outcome) ∈ report.entries ↔
        outcome = (s.handleName name { store := t }).1) ∧
      after.fileAt? (s.source name) =
          (s.handleName name { store := t }).2.store.fileAt? (s.source name) ∧
        after.fileAt? (s.target name) =
          (s.handleName name { store := t }).2.store.fileAt? (s.target name) := by
  obtain ⟨names, hnodup, hlist, hnames, hentries, rfl⟩ := exists_names_of_sweep s ht h
  rw [hentries]
  exact handleNames_alone hdirs hnames hnodup ((hlist name).mpr hlisted) _

end RunSweep.Sweeper

namespace RunSweep

/-- **Two reports tell the same of a name**: it has one outcome, and is in the same list of both, with
the same mishap if it failed. -/
structure Report.AgreeOn (name : String) (r r' : Report) : Prop where
  told : ∃! outcome, (name, outcome) ∈ r.entries
  archived : name ∈ r.archived ↔ name ∈ r'.archived
  deleted : name ∈ r.deleted ↔ name ∈ r'.deleted
  skipped : name ∈ r.skipped ↔ name ∈ r'.skipped
  failures : ∀ mishap, (name, mishap) ∈ r.failures ↔ (name, mishap) ∈ r'.failures

theorem Report.agreeOn_of_entries {name : String} {r r' : Report} {outcome : Outcome}
    (h : ∀ o, (name, o) ∈ r.entries ↔ o = outcome) (h' : ∀ o, (name, o) ∈ r'.entries ↔ o = outcome) :
    Report.AgreeOn name r r' := by
  have hsame (o : Outcome) : (name, o) ∈ r.entries ↔ (name, o) ∈ r'.entries :=
    (h o).trans (h' o).symm
  refine ⟨⟨outcome, (h outcome).mpr rfl, fun o ho => (h o).mp ho⟩, ?_, ?_, ?_, fun mishap => ?_⟩
  · exact mem_names.trans ((hsame _).trans mem_names.symm)
  · exact mem_names.trans ((hsame _).trans mem_names.symm)
  · exact mem_names.trans ((hsame _).trans mem_names.symm)
  · exact mem_failures.trans ((hsame _).trans mem_failures.symm)

namespace Sweeper

variable {s : Sweeper}

/-- Failures on some names make no difference to another. -/
theorem alike_failAll (hdirs : ¬s.workingDir.components <+: s.archiveDir.components) {t : Tree}
    {names : Set String} {extra : List (Operation × Path)}
    (hextra : ∀ operation path, (operation, path) ∈ extra →
      ∃ name ∈ names, path.components = s.source name)
    {name : String} (hname : name ∉ names) :
    s.Alike name { store := t.failAll extra } { store := t } := by
  refine ⟨fun operation => ?_, Tree.find?_failAll _, ?_, prospect_congr rfl ?_ ?_⟩
  · refine Tree.refuses_failAll fun path hpath hplace => ?_
    obtain ⟨other, hother, hcomponents⟩ := hextra operation path hpath
    exact hname (source_injective (hplace.symm.trans hcomponents) ▸ hother)
  · rw [Tree.fileAt?, Tree.fileAt?, Tree.find?_failAll]
  · rw [Tree.kindAt?, Tree.kindAt?, Tree.find?_failAll]
  · refine Tree.refuses_failAll fun path hpath hplace => ?_
    obtain ⟨other, -, hcomponents⟩ := hextra .createDir path hpath
    exact archiveDir_ne_source hdirs (hplace.symm.trans hcomponents)

/-- Failures on names of the working directory make no difference to its listing. -/
theorem readDir_failAll {t : Tree} {names : Set String} {extra : List (Operation × Path)}
    (hextra : ∀ operation path, (operation, path) ∈ extra →
      ∃ name ∈ names, path.components = s.source name) :
    (t.failAll extra).readDir s.workingDir = t.readDir s.workingDir := by
  have hrefuses : (t.failAll extra).refuses .readDir s.workingDir.components =
      t.refuses .readDir s.workingDir.components := by
    refine Tree.refuses_failAll fun path hpath hplace => ?_
    obtain ⟨other, -, hcomponents⟩ := hextra .readDir path hpath
    have hlength := congrArg List.length (hplace.symm.trans hcomponents)
    simp [source] at hlength
  unfold Tree.readDir
  rw [Tree.check_eq, Tree.check_eq, hrefuses, Tree.find?_failAll]

/-- **Failures stay with their files.** Sweep a tree that edits lead to, with an archive directory that is
neither the working directory nor inside it; and sweep the same tree with more operations that are to
fail, all on paths of some names in the working directory. Either both sweeps go through or neither does,
and every other listed name is told of in the same way, and has the same file, or none, in both
directories afterwards. -/
theorem sweep_isolates_failures {t : Tree} (ht : t.Reachable)
    (hdirs : ¬s.workingDir.components <+: s.archiveDir.components)
    {names : Set String} {extra : List (Operation × Path)}
    (hextra : ∀ operation path, (operation, path) ∈ extra →
      ∃ name ∈ names, path.components = s.source name) :
    (s.sweep Tree.fileSystem (t.failAll extra)).1.isOk = (s.sweep Tree.fileSystem t).1.isOk ∧
      ∀ report report' after after', s.sweep Tree.fileSystem t = (.ok report, after) →
        s.sweep Tree.fileSystem (t.failAll extra) = (.ok report', after') →
          ∀ name ∈ t.list s.workingDir, name ∉ names →
            Report.AgreeOn name report report' ∧
              after.fileAt? (s.source name) = after'.fileAt? (s.source name) ∧
                after.fileAt? (s.target name) = after'.fileAt? (s.target name) := by
  constructor
  · rw [sweep_tree, sweep_tree, readDir_failAll hextra]
    rcases t.readDir s.workingDir with fault | paths <;> rfl
  · intro report report' after after' hsweep hsweep' name hlisted hname
    have htidy : (t.failAll extra).Tidy := fun place children hdir =>
      ht.tidy place children ((Tree.find?_failAll extra).symm.trans hdir)
    have hlisted' : name ∈ (t.failAll extra).list s.workingDir := by
      obtain ⟨children, hdir, hmem⟩ := Tree.mem_list.mp hlisted
      exact Tree.mem_list.mpr ⟨children, (Tree.find?_failAll extra).trans hdir, hmem⟩
    -- in each of the two sweeps the name fares as if it were the only one
    obtain ⟨houtcome, hsource, htarget⟩ := sweep_alone hdirs ht.tidy hsweep hlisted
    obtain ⟨houtcome', hsource', htarget'⟩ := sweep_alone hdirs htidy hsweep' hlisted'
    have halike := alike_failAll hdirs hextra (t := t) hname
    have hisname := ht.tidy.isName_of_mem_list hlisted
    rw [halike.outcome_eq hisname hdirs] at houtcome'
    obtain ⟨hfile, harchived⟩ := halike.files_eq hisname hdirs
    exact ⟨Report.agreeOn_of_entries houtcome houtcome', (hsource'.trans (hfile.trans hsource.symm)).symm,
      (htarget'.trans (harchived.trans htarget.symm)).symm⟩

/-- A working directory with two files. -/
def twoFiles : Tree :=
  (Tree.empty.addSizedFile (.ofText "/run/a.dat") 200000000).addSizedFile (.ofText "/run/b.dat")
    200000000

/-- The first of the two files is not to be renamed. -/
def noRename : List (Operation × Path) :=
  [(.rename, .ofText "/run/a.dat")]

theorem twoFiles_reachable : twoFiles.Reachable :=
  (Tree.Reachable.empty.edit (.addSizedFile (.ofText "/run/a.dat") 200000000)
    (by rintro _ ⟨⟩; exact ⟨_, rfl⟩)).edit (.addSizedFile (.ofText "/run/b.dat") 200000000)
    (by rintro _ ⟨⟩; exact ⟨_, rfl⟩)

theorem twoFiles_dir :
    twoFiles.find? hundredMegabytes.workingDir.components = some (.dir ["a.dat", "b.dat"]) := by
  decide +kernel

theorem twoFiles_readDir :
    twoFiles.readDir hundredMegabytes.workingDir =
      .ok [.ofText "/run/a.dat", .ofText "/run/b.dat"] := by
  decide +kernel

theorem noRename_readDir :
    (twoFiles.failAll noRename).readDir hundredMegabytes.workingDir =
      .ok [.ofText "/run/a.dat", .ofText "/run/b.dat"] := by
  decide +kernel

theorem hundredMegabytes_not_inside :
    ¬hundredMegabytes.workingDir.components <+: hundredMegabytes.archiveDir.components := by
  decide +kernel

theorem noRename_source :
    (Path.ofText "/run/a.dat").components = hundredMegabytes.source "a.dat" := by
  decide +kernel

/-- A first file that cannot be renamed makes no difference to the second. -/
theorem second_file_unaffected :
    ∃ report report' after after',
      hundredMegabytes.sweep Tree.fileSystem twoFiles = (.ok report, after) ∧
      hundredMegabytes.sweep Tree.fileSystem (twoFiles.failAll noRename) = (.ok report', after') ∧
      Report.AgreeOn "b.dat" report report' ∧
      after.fileAt? (hundredMegabytes.target "b.dat") =
        after'.fileAt? (hundredMegabytes.target "b.dat") := by
  have hsweep : ∃ report after,
      hundredMegabytes.sweep Tree.fileSystem twoFiles = (.ok report, after) := by
    rw [sweep_tree, twoFiles_readDir]
    exact ⟨_, _, rfl⟩
  have hsweep' : ∃ report' after',
      hundredMegabytes.sweep Tree.fileSystem (twoFiles.failAll noRename) = (.ok report', after') := by
    rw [sweep_tree, noRename_readDir]
    exact ⟨_, _, rfl⟩
  have hextra (operation : Operation) (path : Path) (h : (operation, path) ∈ noRename) :
      ∃ name ∈ ({"a.dat"} : Set String), path.components = hundredMegabytes.source name := by
    obtain ⟨-, rfl⟩ := Prod.mk.inj (List.mem_singleton.mp h)
    exact ⟨"a.dat", rfl, noRename_source⟩
  obtain ⟨report, after, hsweep⟩ := hsweep
  obtain ⟨report', after', hsweep'⟩ := hsweep'
  have hlisted : "b.dat" ∈ twoFiles.list hundredMegabytes.workingDir :=
    Tree.mem_list.mpr ⟨_, twoFiles_dir, List.mem_cons_of_mem _ List.mem_cons_self⟩
  have hother : "b.dat" ∉ ({"a.dat"} : Set String) := by
    rw [Set.mem_singleton_iff]
    decide
  obtain ⟨hagree, -, harchived⟩ := (sweep_isolates_failures twoFiles_reachable
    hundredMegabytes_not_inside hextra).2 report report' after after' hsweep hsweep' "b.dat" hlisted
    hother
  exact ⟨report, report', after, after', hsweep, hsweep', hagree, harchived⟩

end Sweeper

end RunSweep
