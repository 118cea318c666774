import RunSweep.Proofs.Storage.Coherence
import RunSweep.Proofs.Sweep.Directories
import RunSweep.Proofs.Sweep.Fallback
import RunSweep.Proofs.Sweep.Listing

/-!
# Sweeps that complete

A name is `Unhindered` while nothing stands against what is meant to become of it: its entry is there, no
operation on it is to fail, and the archive directory is there once it has been seen to. Handling a name
then ends as it is meant to, and leaves the others unhindered, wherever the two directories lie: a move
takes the place neither of another name's entry nor of the archive directory, and a file that is removed
is no directory. So a sweep that starts without obstacles does not make any.
-/

namespace RunSweep

/-- What is told of a file that is handled as it is meant to be. -/
def Disposition.outcome : Disposition → Outcome
  | archive => .archived
  | delete => .deleted

theorem Disposition.outcome_injective : Function.Injective outcome := by
  rintro (_ | _) (_ | _) h <;> first | rfl | cases h

theorem Disposition.outcome_ne_skipped (disposition : Disposition) :
    disposition.outcome ≠ .skipped := by
  cases disposition <;> simp [outcome]

theorem Disposition.outcome_ne_failed (disposition : Disposition) (mishap : Mishap) :
    disposition.outcome ≠ .failed mishap := by
  cases disposition <;> simp [outcome]

namespace Sweeper

variable {s : Sweeper} {t : Tree} {p : Pass Tree} {name other : String}

/-- What is meant to become of a name: a file is archived or deleted, and anything else passed over. -/
def meant (s : Sweeper) (t : Tree) (name : String) : Outcome :=
  match t.fileAt? (s.source name) with
  | some (.file _ len) => (classify len s.threshold).outcome
  | _ => .skipped

theorem meant_file {contents : Bytes} {len : UInt64}
    (h : t.fileAt? (s.source name) = some (.file contents len)) :
    s.meant t name = (classify len s.threshold).outcome := by
  rw [meant, h]

theorem meant_of_no_file (h : t.fileAt? (s.source name) = none) : s.meant t name = .skipped := by
  rw [meant, h]

theorem meant_ne_failed (s : Sweeper) (t : Tree) (name : String) (mishap : Mishap) :
    s.meant t name ≠ .failed mishap := by
  unfold meant
  split
  · exact Disposition.outcome_ne_failed _ _
  · simp

/-- A file that is handled as it is meant to be leaves the working directory. -/
theorem Fate.gone {e : Entry} {before after : Tree} {disposition disposition' : Disposition}
    (h : Fate s name e before after disposition disposition'.outcome) :
    after.fileAt? (s.source name) = none := by
  cases disposition' <;> cases h <;> assumption

/-- A file that is archived is in the archive. -/
theorem Fate.arrived {e : Entry} {before after : Tree} {disposition : Disposition}
    (h : Fate s name e before after disposition .archived) :
    after.fileAt? (s.target name) = some e := by
  cases h
  assumption

/-! ## The archive directory -/

/-- **When the archive directory will be there**: it is there, or it can be made and will be. -/
theorem prospect_eq_dir_iff :
    s.prospect p = .ok (some true) ↔
      p.store.kindAt? s.archiveDir.components = some true ∨
        ¬s.Settled p ∧ p.store.kindAt? s.archiveDir.components = none ∧
          p.store.refuses .createDir s.archiveDir.components = false := by
  rw [prospect_eq, Tree.isDir_eq, Tree.allowDir_eq, Settled]
  cases (p.ready || !s.createArchiveDir)
  case true => simp
  case false =>
    rcases p.store.kindAt? s.archiveDir.components with _ | _ | _ <;>
      cases p.store.refuses .createDir s.archiveDir.components <;> simp [Except.map]

/-- **The archive directory will still be there** after a name has been handled. It is not where a file
is that is removed, and no file is moved into its place. -/
theorem prospect_handleName_of_dir (hname : Path.IsName (Utf8.encode name))
    (h : s.prospect p = .ok (some true)) : s.prospect (s.handleName name p).2 = .ok (some true) := by
  rw [handleName, handle_tree]
  split
  · exact h
  split_ifs
  · exact h
  split
  -- the directory is there before the file is moved
  · unfold archiveFile
    rcases hensure : s.ensureArchive Tree.fileSystem p with ⟨fault | _, q⟩
    · rw [prospect, hensure] at h
      cases h
    · rw [prospect, hensure] at h
      refine prospect_eq_dir_iff.mpr (.inl ?_)
      refine (dir_moveFile (Except.ok.inj h)).trans ?_
      rw [← archivePath, components_archivePath hname, beq_false_of_ne archiveDir_ne_target,
        Bool.and_false]
      rfl
  · rw [deleteFile_tree]
    split
    · rename_i e hallowed
      have hne : s.archiveDir.components ≠ (s.entryPath name).components := by
        intro heq
        have hkind := heq ▸ Tree.kindAt?_of_fileAt? (Tree.allowRemoval_eq_ok hallowed)
        rcases prospect_eq_dir_iff.mp h with hdir | ⟨-, hnone, -⟩ <;> simp_all
      refine Eq.trans (prospect_congr (q := p) rfl (Tree.kindAt?_without_of_ne _ hne) ?_) h
      exact congrArg (List.contains · _) (Tree.failing_without _ _)
    · exact h

/-- What another name leads to stays a directory or a file while a name is handled. -/
theorem kindAt?_source_handleName (hname : Path.IsName (Utf8.encode name))
    (hdirs : s.workingDir.components ≠ s.archiveDir.components) (hne : other ≠ name) {kind : Bool}
    (h : p.store.kindAt? (s.source other) = some kind) :
    (s.handleName name p).2.store.kindAt? (s.source other) = some kind := by
  refine s.handleName_preserves hname (motive := fun u => u.kindAt? (s.source other) = some kind) p
    (fun _ _ hu => Tree.kindAt?_ensureDir_of_some hu) (fun u hu => ?_) (fun u e _ hu => ?_) h
  · rwa [Tree.kindAt?_without_of_ne _ fun heq => hne (source_injective heq)]
  · rwa [Tree.kindAt?_withEntry_of_ne _ _ (source_ne_target hdirs)]

/-! ## Names that nothing stands against -/

/-- **Nothing stands against a name**: its entry is there, what may be asked of it is not to fail, and the
archive directory is there once it has been seen to. Nothing is said of copies: where a file can be
renamed, none is made. -/
structure Unhindered (s : Sweeper) (name : String) (p : Pass Tree) : Prop where
  free : ∀ operation ∈ [Operation.metadata, .rename, .removeFile],
    p.store.refuses operation (s.source name) = false
  present : p.store.kindAt? (s.source name) ≠ none
  prospect : s.prospect p = .ok (some true)

namespace Unhindered

/-- What there is can be looked at. -/
theorem metadata_eq (h : s.Unhindered name p) (hname : Path.IsName (Utf8.encode name)) {e : Entry}
    (he : p.store.find? (s.source name) = some e) :
    p.store.metadata (s.entryPath name) = .ok e.metadata := by
  rw [Tree.metadata_eq_ok_iff, components_entryPath hname, he]
  exact ⟨h.free .metadata (by simp), rfl⟩

/-- **A file that is to be archived** is moved, once the archive directory has been seen to. -/
theorem handleName_archive (h : s.Unhindered name p) (hname : Path.IsName (Utf8.encode name))
    {contents : Bytes} {len : UInt64}
    (hfile : p.store.fileAt? (s.source name) = some (.file contents len))
    (hclass : classify len s.threshold = .archive) :
    ∃ q, s.ensureArchive Tree.fileSystem p = (.ok (), q) ∧
      q.store.kindAt? s.archiveDir.components = some true ∧
      s.handleName name p =
        (.archived, { q with
          store := (q.store.without (s.source name)).withEntry (s.target name)
            (.file contents len) }) := by
  have hprospect := h.prospect
  have hkept := (fileAt?_ensureArchive (s := s) p (s.source name)).trans hfile
  have hfailing := failing_ensureArchive (s := s) p
  rw [Sweeper.handleName, handle_tree, h.metadata_eq hname (Tree.fileAt?_eq_some.mp hfile).1]
  dsimp only [Entry.metadata]
  rw [if_neg Bool.false_ne_true, hclass]
  unfold Sweeper.prospect at hprospect
  unfold archiveFile
  generalize s.ensureArchive Tree.fileSystem p = seen at hprospect hkept hfailing
  obtain ⟨_ | _, q⟩ := seen
  · cases hprospect
  have hdir := Except.ok.inj hprospect
  refine ⟨q, rfl, hdir, ?_⟩
  have hallowed : q.store.allowMove .rename (s.entryPath name) (s.archivePath name) =
      .ok (.file contents len) := by
    obtain ⟨parent, hparent, hplace⟩ := Path.parent?_join s.archiveDir hname
    have hrequire : q.store.requireParent (s.archivePath name) = .ok () := by
      unfold Tree.requireParent
      rw [archivePath, hparent]
      dsimp only
      rw [if_pos (Tree.isDir_iff.mpr (hplace ▸ hdir))]
    have hfree : q.store.refuses .rename (s.source name) = false := by
      rw [Tree.refuses, hfailing]
      exact h.free .rename (by simp)
    unfold Tree.allowMove
    rw [Tree.check_eq, components_entryPath hname, hfree, hrequire,
      Tree.requireFile_of_fileAt? ((components_entryPath hname).symm ▸ hkept)]
    rfl
  dsimp only
  rw [← archivePath, moveFile_tree, hallowed, components_entryPath hname,
    components_archivePath hname]

/-- **A file that is to be deleted** is removed. -/
theorem handleName_delete (h : s.Unhindered name p) (hname : Path.IsName (Utf8.encode name))
    {contents : Bytes} {len : UInt64}
    (hfile : p.store.fileAt? (s.source name) = some (.file contents len))
    (hclass : classify len s.threshold = .delete) :
    s.handleName name p = (.deleted, { p with store := p.store.without (s.source name) }) := by
  have hallowed : p.store.allowRemoval (s.entryPath name) = .ok (.file contents len) := by
    rw [← components_entryPath hname] at hfile
    refine Tree.allowRemoval_of_free ?_ hfile
    rw [components_entryPath hname]
    exact h.free .removeFile (by simp)
  rw [Sweeper.handleName, handle_tree, h.metadata_eq hname (Tree.fileAt?_eq_some.mp hfile).1]
  dsimp only [Entry.metadata]
  rw [if_neg Bool.false_ne_true, hclass]
  dsimp only
  rw [deleteFile_tree, hallowed, components_entryPath hname]

/-- **A directory** is passed over. -/
theorem handleName_dir (h : s.Unhindered name p) (hname : Path.IsName (Utf8.encode name))
    (hnone : p.store.fileAt? (s.source name) = none) : s.handleName name p = (.skipped, p) := by
  obtain ⟨children, hfind⟩ := Tree.exists_children (Tree.kindAt?_of_no_file h.present hnone)
  rw [Sweeper.handleName, handle_tree, h.metadata_eq hname hfind]
  rfl

/-- **What nothing stands against ends as it is meant to.** -/
theorem outcome_eq (h : s.Unhindered name p) (hname : Path.IsName (Utf8.encode name)) :
    (s.handleName name p).1 = s.meant p.store name := by
  rcases p.store.fileAt?_cases (s.source name) with hfile | ⟨contents, len, hfile⟩
  · rw [meant_of_no_file hfile, h.handleName_dir hname hfile]
  rw [meant_file hfile]
  cases hclass : classify len s.threshold with
  | archive =>
      obtain ⟨q, -, -, hhandle⟩ := h.handleName_archive hname hfile hclass
      exact congrArg Prod.fst hhandle
  | delete => exact congrArg Prod.fst (h.handleName_delete hname hfile hclass)

/-- **Handling a name puts nothing in the way of another.** -/
theorem handleName (h : s.Unhindered other p) (hname : Path.IsName (Utf8.encode name))
    (hdirs : s.workingDir.components ≠ s.archiveDir.components) (hne : other ≠ name) :
    s.Unhindered other (s.handleName name p).2 := by
  constructor
  case free =>
    intro operation hmem
    rw [Tree.refuses, failing_handleName hname]
    exact h.free operation hmem
  case prospect => exact prospect_handleName_of_dir hname h.prospect
  case present =>
    obtain ⟨kind, hkind⟩ := Option.ne_none_iff_exists'.mp h.present
    rw [kindAt?_source_handleName hname hdirs hne hkind]
    simp

end Unhindered

/-! ## Listings that nothing stands against -/

/-- Where no file was, none comes into the working directory. -/
theorem no_file_passAfter (hdirs : s.workingDir.components ≠ s.archiveDir.components)
    {names : List String} (hnames : ∀ name ∈ names, Path.IsName (Utf8.encode name))
    (h : p.store.fileAt? (s.source name) = none) :
    (s.passAfter names p).store.fileAt? (s.source name) = none := by
  refine s.passAfter_preserves (motive := fun p => p.store.fileAt? (s.source name) = none)
    (fun other hmem p h => ?_) h
  refine s.handleName_preserves (hnames other hmem)
    (motive := fun t => t.fileAt? (s.source name) = none) p (fun _ _ h => ?_) (fun t h => ?_)
    (fun t e he h => ?_) h
  · rw [Tree.fileAt?_ensureDir, h]
  · rw [Tree.fileAt?_without, h, ite_self]
  · rw [Tree.fileAt?_withEntry _ _ _ he, if_neg (source_ne_target hdirs), h]

/-- **Nothing stands against a list of names**: the two directories differ, the names are names and none
of them is there twice, and each is unhindered. -/
structure Unobstructed (s : Sweeper) (names : List String) (p : Pass Tree) : Prop where
  dirs : s.workingDir.components ≠ s.archiveDir.components
  isName : ∀ name ∈ names, Path.IsName (Utf8.encode name)
  nodup : names.Nodup
  unhindered : ∀ name ∈ names, s.Unhindered name p

namespace Unobstructed

variable {names : List String}

/-- **The first name puts nothing in the way of the others.** -/
theorem next (h : s.Unobstructed (name :: names) p) :
    s.Unobstructed names (s.handleName name p).2 := by
  obtain ⟨hnot, hnodup⟩ := List.nodup_cons.mp h.nodup
  refine ⟨h.dirs, fun other hmem => h.isName other (List.mem_cons_of_mem _ hmem), hnodup,
    fun other hmem => ?_⟩
  exact (h.unhindered other (List.mem_cons_of_mem _ hmem)).handleName
    (h.isName name List.mem_cons_self) h.dirs fun heq => hnot (heq ▸ hmem)

/-- Nor does it change what is meant to become of them. -/
theorem meant_next (h : s.Unobstructed (name :: names) p) (hmem : other ∈ names) :
    s.meant (s.handleName name p).2.store other = s.meant p.store other := by
  have hne : other ≠ name := fun heq => (List.nodup_cons.mp h.nodup).1 (heq ▸ hmem)
  rw [meant, meant, fileAt?_handleName (h.isName name List.mem_cons_self) p
    (fun heq => hne (source_injective heq)) (source_ne_target h.dirs)]

/-- **All names end as they are meant to**, one after the other. -/
theorem outcomes_eq (h : s.Unobstructed names p) :
    (s.handleNames names p).1 = names.map fun name => (name, s.meant p.store name) := by
  induction names generalizing p with
  | nil => rfl
  | cons name names ih =>
      have hname := h.isName name List.mem_cons_self
      have hothers : (s.handleNames names (s.handleName name p).2).1 =
          names.map fun other => (other, s.meant p.store other) := by
        rw [ih h.next]
        exact List.map_congr_left fun other hmem => congrArg (Prod.mk other) (h.meant_next hmem)
      rw [handleNames_cons s hname, hothers, (h.unhindered name List.mem_cons_self).outcome_eq hname]
      rfl

theorem mem_outcomes_iff (h : s.Unobstructed names p) {outcome : Outcome} :
    (name, outcome) ∈ (s.handleNames names p).1 ↔ name ∈ names ∧ outcome = s.meant p.store name := by
  rw [h.outcomes_eq, List.mem_map]
  constructor
  · rintro ⟨_, hmem, heq⟩
    obtain ⟨rfl, rfl⟩ := Prod.mk.inj heq
    exact ⟨hmem, rfl⟩
  · rintro ⟨hmem, rfl⟩
    exact ⟨name, hmem, rfl⟩

/-- Nothing fails. -/
theorem failures_eq_nil (h : s.Unobstructed names p) :
    Report.failures { entries := (s.handleNames names p).1 } = [] := by
  rw [List.eq_nil_iff_forall_not_mem]
  rintro ⟨name, mishap⟩ hfailed
  rw [Report.mem_failures, h.mem_outcomes_iff] at hfailed
  exact meant_ne_failed _ _ _ _ hfailed.2.symm

/-- A file has the fate that its disposition means for it. -/
theorem fate (h : s.Unobstructed names p) (hmem : name ∈ names) {contents : Bytes} {len : UInt64}
    (hfile : p.store.fileAt? (s.source name) = some (.file contents len)) :
    Fate s name (.file contents len) p.store (s.handleNames names p).2
      (classify len s.threshold) (classify len s.threshold).outcome := by
  obtain ⟨outcome, htold, hfate⟩ := fate_handleNames h.dirs h.isName h.nodup hmem hfile
  rw [h.mem_outcomes_iff, meant_file hfile] at htold
  exact htold.2 ▸ hfate

/-- No file is left under any of the names. -/
theorem no_file (h : s.Unobstructed names p) (hmem : name ∈ names) :
    (s.handleNames names p).2.fileAt? (s.source name) = none := by
  rcases p.store.fileAt?_cases (s.source name) with hfile | ⟨contents, len, hfile⟩
  · rw [handleNames_store s h.isName]
    exact no_file_passAfter h.dirs h.isName hfile
  · exact (h.fate hmem hfile).gone

end Unobstructed

/-! ## The whole sweep -/

/-- **A sweep that nothing stands against completes.** Take a tree that edits lead to and two directories
that differ, wherever they lie. The working directory is there and can be listed; what it lists may be
looked at, renamed and removed; and the archive directory is there, or nothing is in its place and it can
and is to be made. Then the sweep ends well and without a failure. Of the listed names none is a file in
the working directory afterwards; those to be archived are in the archive as they were; and directories
are told of as passed over. Copies may fail, since none is needed. -/
theorem sweep_completes (ht : t.Reachable)
    (hdirs : s.workingDir.components ≠ s.archiveDir.components)
    (hworking : t.isDir s.workingDir = true)
    (hlist : t.refuses .readDir s.workingDir.components = false)
    (hfree : ∀ name ∈ t.list s.workingDir, ∀ operation ∈ [Operation.metadata, .rename, .removeFile],
      t.refuses operation (s.source name) = false)
    (hcreate : t.refuses .createDir s.archiveDir.components = false)
    (harchive : t.isDir s.archiveDir = true ∨
      t.contains s.archiveDir = false ∧ s.createArchiveDir = true) :
    ∃ report after, s.sweep Tree.fileSystem t = (.ok report, after) ∧ report.failures = [] ∧
      ∀ name ∈ t.list s.workingDir,
        after.fileAt? (s.source name) = none ∧
        (∀ contents len, t.find? (s.source name) = some (.file contents len) →
          classify len s.threshold = .archive →
            name ∈ report.archived ∧ after.find? (s.target name) = some (.file contents len)) ∧
        (t.kindAt? (s.source name) = some true → name ∈ report.skipped) := by
  obtain ⟨names, horder, hlisted, hnames, hsweep⟩ :=
    (Listable.of_tidy ht.tidy hworking).exists_names hlist
  have hprospect : s.prospect { store := t } = .ok (some true) := by
    refine prospect_eq_dir_iff.mpr (harchive.imp Tree.isDir_iff.mp fun ⟨hmissing, hmake⟩ => ?_)
    exact ⟨by simp [Settled, hmake], Tree.contains_eq_false_iff.mp hmissing, hcreate⟩
  have hclear : s.Unobstructed names { store := t } := by
    refine ⟨hdirs, hnames, horder.nodup, fun name hmem => ?_⟩
    have hmem := (hlisted name).mp hmem
    exact ⟨hfree name (Tree.mem_list_iff_namesAt.mpr hmem), ht.coherent.present _ name hmem, hprospect⟩
  refine ⟨_, _, hsweep, hclear.failures_eq_nil, fun name hmem => ?_⟩
  have hmem : name ∈ names := (hlisted name).mpr (Tree.mem_list_iff_namesAt.mp hmem)
  have htold : name ∈
      Report.names { entries := (s.handleNames names { store := t }).1 } (s.meant t name) :=
    Report.mem_names.mpr (hclear.mem_outcomes_iff.mpr ⟨hmem, rfl⟩)
  refine ⟨hclear.no_file hmem, fun contents len hfind hclass => ?_, fun hkind => ?_⟩
  · have hfile : t.fileAt? (s.source name) = some (.file contents len) :=
      Tree.fileAt?_eq_some.mpr ⟨hfind, rfl⟩
    have hfate := hclear.fate hmem hfile
    rw [meant_file hfile, hclass] at htold
    rw [hclass] at hfate
    exact ⟨htold, (Tree.fileAt?_eq_some.mp hfate.arrived).1⟩
  · rwa [meant_of_no_file (Tree.no_file_of_dir hkind)] at htold

/-- A working directory with a large file and a directory. -/
def nestedTree : Tree :=
  (Tree.empty.addSizedFile (.ofText "/run/a.dat") 200000000).addDir (.ofText "/run/sub")

/-- A sweeper whose archive directory is to be made in the directory that it passes over. -/
def nested : Sweeper :=
  { hundredMegabytes with archiveDir := .ofText "/run/sub/store" }

theorem nestedTree_reachable : nestedTree.Reachable :=
  (Tree.Reachable.empty.edit (.addSizedFile (.ofText "/run/a.dat") 200000000)
    (by rintro _ ⟨⟩; exact ⟨_, rfl⟩)).edit (.addDir (.ofText "/run/sub"))
    (by rintro _ ⟨⟩; exact ⟨_, rfl⟩)

/-- What is in the tree. -/
theorem nestedTree_holds :
    nestedTree.find? nested.workingDir.components = some (.dir ["a.dat", "sub"]) ∧
      nestedTree.find? (nested.source "a.dat") = some (.file [] 200000000) ∧
        nestedTree.kindAt? (nested.source "sub") = some true ∧
          nestedTree.contains nested.archiveDir = false ∧ nestedTree.failing = [] ∧
            nested.workingDir.components ≠ nested.archiveDir.components := by
  decide +kernel

/-- The large file is moved below the directory that is passed over. -/
theorem nested_sweep_completes :
    ∃ report after, nested.sweep Tree.fileSystem nestedTree = (.ok report, after) ∧
      report.failures = [] ∧ after.fileAt? (nested.source "a.dat") = none ∧
        after.find? (nested.target "a.dat") = some (.file [] 200000000) ∧ "sub" ∈ report.skipped := by
  obtain ⟨hlisted, hfile, hdir, hmissing, hfailing, hdirs⟩ := nestedTree_holds
  have hlarge : classify 200000000 nested.threshold = .archive := by decide +kernel
  have hworking : nestedTree.isDir nested.workingDir = true := by
    rw [Tree.isDir, hlisted]
    rfl
  have hfree (operation : Operation) (place : Place) : nestedTree.refuses operation place = false := by
    rw [Tree.refuses, hfailing]
    rfl
  obtain ⟨report, after, hsweep, hfailures, hnames⟩ := sweep_completes nestedTree_reachable hdirs
    hworking (hfree _ _) (fun _ _ _ _ => hfree _ _) (hfree _ _) (.inr ⟨hmissing, rfl⟩)
  obtain ⟨hgone, harchived, -⟩ := hnames "a.dat" (Tree.mem_list.mpr ⟨_, hlisted, by simp⟩)
  obtain ⟨-, -, hskipped⟩ := hnames "sub" (Tree.mem_list.mpr ⟨_, hlisted, by simp⟩)
  exact ⟨report, after, hsweep, hfailures, hgone, (harchived _ _ hfile hlarge).2, hskipped hdir⟩

end Sweeper

end RunSweep
