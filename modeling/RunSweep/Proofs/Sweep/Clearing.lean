import RunSweep.Proofs.Sweep.Completeness
import RunSweep.Proofs.Sweep.Frame

/-!
# Sweeps that clear the working directory

Where nothing is to fail and the two directories are in order, a sweep handles every file as it is meant
to be handled. `Sweeper.Tended` says what that takes; every change that a sweep makes keeps it, and so
does a file that is written into the working directory. Such a sweep leaves no file behind: those that are
to be archived come into the archive, and all others are gone.
-/

namespace RunSweep

namespace Sweeper

variable {s : Sweeper} {t : Tree} {name : String}

/-- Neither of the two directories is inside the other. -/
structure Apart (s : Sweeper) : Prop where
  archive : ¬s.workingDir.components <+: s.archiveDir.components
  working : ¬s.archiveDir.components <+: s.workingDir.components

/-- **A tree in which nothing stands against a sweep**: nothing is to fail, the working directory lists
names that are there, each once, and the archive directory is there or can be made. -/
structure Tended (s : Sweeper) (t : Tree) : Prop where
  failing : t.failing = []
  working : t.kindAt? s.workingDir.components = some true
  nodup : (t.namesAt s.workingDir.components).Nodup
  present : ∀ name ∈ t.namesAt s.workingDir.components,
    Path.IsName (Utf8.encode name) ∧ t.kindAt? (s.source name) ≠ none
  archive : t.kindAt? s.archiveDir.components = some true ∨
    t.kindAt? s.archiveDir.components = none ∧ s.createArchiveDir = true

namespace Tended

theorem free (h : s.Tended t) (operation : Operation) (place : Place) :
    t.refuses operation place = false := by
  rw [Tree.refuses, h.failing]
  rfl

theorem listable (h : s.Tended t) : s.Listable t :=
  ⟨Tree.isDir_iff.mpr h.working, h.nodup, fun name hmem => (h.present name hmem).1⟩

/-- It takes no more than two directories in a tree that edits lead to, if nothing is to fail. -/
theorem of_reachable (ht : t.Reachable) (hfailing : t.failing = [])
    (hworking : t.kindAt? s.workingDir.components = some true)
    (harchive : t.kindAt? s.archiveDir.components = some true ∨
      t.kindAt? s.archiveDir.components = none ∧ s.createArchiveDir = true) : s.Tended t := by
  have hlistable : s.Listable t := .of_tidy ht.tidy (Tree.isDir_iff.mpr hworking)
  refine ⟨hfailing, hworking, hlistable.nodup, fun name hmem => ?_, harchive⟩
  exact ⟨hlistable.isName name hmem, ht.coherent.present _ name hmem⟩

/-! ## What keeps a tree tended -/

/-- What a tree holds is all that counts. -/
theorem congr (h : s.Tended t) {u : Tree} (hequiv : u.Equiv t) (hfailing : u.failing = t.failing) :
    s.Tended u := by
  constructor
  · rw [hfailing, h.failing]
  · rw [hequiv.kindAt?_eq, h.working]
  · rw [hequiv.namesAt_eq]
    exact h.nodup
  · simpa only [hequiv.namesAt_eq, hequiv.kindAt?_eq] using h.present
  · simpa only [hequiv.kindAt?_eq] using h.archive

/-- Making the archive directory. -/
theorem ensureDir (h : s.Tended t) (hapart : s.Apart) :
    s.Tended (t.ensureDir s.archiveDir.components) := by
  have hlistable := h.listable.ensureDir hapart.archive
  have hno_file : t.kindAt? s.archiveDir.components ≠ some false := by
    rcases h.archive with hdir | ⟨hnone, -⟩ <;> simp [*]
  constructor
  case failing => rw [Tree.failing_ensureDir, h.failing]
  case working => exact Tree.isDir_iff.mp hlistable.working
  case nodup => exact hlistable.nodup
  case present =>
    intro name hmem
    rw [namesAt_ensureDir_archive hapart.archive] at hmem
    rw [Tree.kindAt?_ensureDir_of_not_above _ (source_not_above hapart.archive)]
    exact h.present name hmem
  case archive => exact .inl (Tree.kindAt?_ensureDir_of_not_file hno_file)

/-- A file that leaves the working directory. -/
theorem leave (h : s.Tended t) (hapart : s.Apart) (name : String) :
    s.Tended (t.without (s.source name)) := by
  have hlistable := h.listable.leave name
  constructor
  case failing => rw [Tree.failing_without, h.failing]
  case working => exact Tree.isDir_iff.mp hlistable.working
  case nodup => exact hlistable.nodup
  case present =>
    intro other hmem
    obtain ⟨hold, hne⟩ := mem_namesAt_without_source.mp hmem
    rw [Tree.kindAt?_without_of_ne _ fun heq => hne (source_injective heq)]
    exact h.present other hold
  case archive =>
    rw [Tree.kindAt?_without_of_ne _ (archiveDir_ne_source hapart.archive)]
    exact h.archive

/-- A file that comes into the archive. -/
theorem arrive (h : s.Tended t) (hapart : s.Apart) (name : String) {e : Entry}
    (he : e.isDir = false) : s.Tended (t.withEntry (s.target name) e) := by
  have hdirs := dirs_ne hapart.archive
  have hne : s.workingDir.components ≠ s.target name :=
    fun heq => hapart.working (heq ▸ List.prefix_append _ _)
  have hlistable := h.listable.arrive hdirs hne he
  constructor
  case failing => rw [Tree.failing_withEntry, h.failing]
  case working => exact Tree.isDir_iff.mp hlistable.working
  case nodup => exact hlistable.nodup
  case present =>
    intro other hmem
    rw [mem_namesAt_withEntry_target hdirs hne he] at hmem
    rw [Tree.kindAt?_withEntry_of_ne _ _ (source_ne_target hdirs)]
    exact h.present other hmem
  case archive =>
    rw [Tree.kindAt?_withEntry_of_ne _ _ archiveDir_ne_target]
    exact h.archive

/-- A file that is written into the working directory. -/
theorem write (h : s.Tended t) (hapart : s.Apart) (hname : Path.IsName (Utf8.encode name))
    {e : Entry} (he : e.isDir = false) : s.Tended (t.withEntry (s.source name) e) := by
  have hne : s.workingDir.components ≠ s.source name := Place.ne_child _ name
  have hthere (other : String) (hold : t.kindAt? (s.source other) ≠ none) :
      (t.withEntry (s.source name) e).kindAt? (s.source other) ≠ none := by
    by_cases heq : s.source other = s.source name
    · rw [heq, Tree.kindAt?_withEntry_self]
      simp
    · rwa [Tree.kindAt?_withEntry_of_ne _ _ heq]
  constructor
  case failing => rw [Tree.failing_withEntry, h.failing]
  case working => rw [Tree.kindAt?_withEntry_of_ne _ _ hne, h.working]
  case nodup => exact Tree.nodup_namesAt_withEntry he h.nodup
  case present =>
    intro other hmem
    rcases (Tree.mem_namesAt_withEntry (Place.titled_child s.workingDir.components name) he).mp hmem
      with ⟨hold, -⟩ | ⟨heq, -⟩
    · obtain ⟨hisname, hold⟩ := h.present other hold
      exact ⟨hisname, hthere other hold⟩
    · obtain rfl : name = other := source_injective heq
      rw [Tree.kindAt?_withEntry_self]
      exact ⟨hname, by simp⟩
  case archive =>
    rw [Tree.kindAt?_withEntry_of_ne _ _ (archiveDir_ne_source hapart.archive)]
    exact h.archive

/-- **Handling a name.** -/
theorem handleName (hapart : s.Apart) (hname : Path.IsName (Utf8.encode name)) {p : Pass Tree}
    (h : s.Tended p.store) : s.Tended (s.handleName name p).2.store :=
  s.handleName_preserves hname p (fun _ _ h => h.ensureDir hapart) (fun _ h => h.leave hapart name)
    (fun _ _ he h => h.arrive hapart name he) h

/-- **Handling names.** -/
theorem passAfter (hapart : s.Apart) {names : List String}
    (hnames : ∀ name ∈ names, Path.IsName (Utf8.encode name)) {p : Pass Tree}
    (h : s.Tended p.store) : s.Tended (s.passAfter names p).store :=
  s.passAfter_preserves (motive := fun p => s.Tended p.store)
    (fun name hmem _ h => h.handleName hapart (hnames name hmem)) h

/-! ## What becomes of one name -/

theorem prospect (h : s.Tended t) : s.prospect { store := t } = .ok (some true) := by
  refine prospect_eq_dir_iff.mpr (h.archive.imp_right fun ⟨hnone, hcreate⟩ => ?_)
  exact ⟨by simp [Settled, hcreate], hnone, h.free _ _⟩

/-- Nothing stands against what is there. -/
theorem unhindered {p : Pass Tree} (h : s.Tended p.store) (hprospect : s.prospect p = .ok (some true))
    (hthere : p.store.kindAt? (s.source name) ≠ none) : s.Unhindered name p :=
  ⟨fun _ _ => h.free _ _, hthere, hprospect⟩

/-- **A file that is to be archived** comes into the archive, and is listed there. -/
theorem handleName_archive (hapart : s.Apart) (hname : Path.IsName (Utf8.encode name)) {p : Pass Tree}
    (h : s.Tended p.store) (hprospect : s.prospect p = .ok (some true)) {contents : Bytes}
    {len : UInt64} (hfile : p.store.fileAt? (s.source name) = some (.file contents len))
    (hclass : classify len s.threshold = .archive) :
    (s.handleName name p).1 = .archived ∧
      name ∈ (s.handleName name p).2.store.namesAt s.archiveDir.components := by
  have hthere : p.store.kindAt? (s.source name) ≠ none := by
    rw [Tree.kindAt?_of_fileAt? hfile]
    simp
  obtain ⟨q, -, hdir, hhandle⟩ :=
    (h.unhindered hprospect hthere).handleName_archive hname hfile hclass
  rw [hhandle]
  refine ⟨rfl, ?_⟩
  -- the directory that lists it is not where the file was
  refine (Tree.mem_namesAt_withEntry (Place.titled_child _ name) rfl).mpr (.inr ⟨rfl, ?_⟩)
  rw [Tree.kindAt?_without_of_ne _ (archiveDir_ne_source hapart.archive), hdir]

end Tended

/-- What the archive lists, it lists after more names have been handled. -/
theorem mem_namesAt_passAfter (hapart : s.Apart) {others : List String}
    (hothers : ∀ other ∈ others, Path.IsName (Utf8.encode other)) {p : Pass Tree}
    (h : name ∈ p.store.namesAt s.archiveDir.components) :
    name ∈ (s.passAfter others p).store.namesAt s.archiveDir.components := by
  have hdirs := dirs_ne hapart.archive
  refine s.passAfter_preserves
    (motive := fun p => name ∈ p.store.namesAt s.archiveDir.components) ?_ h
  intro other hother p h
  refine s.handleName_preserves (hothers other hother)
    (motive := fun t => name ∈ t.namesAt s.archiveDir.components) p ?prepare ?leave ?arrive h
  case prepare =>
    intro _ _ h
    rw [Tree.ensureDir_of_kindAt? (Tree.kindAt?_of_mem_namesAt h)]
    exact h
  case leave =>
    intro t h
    exact (Tree.mem_namesAt_without (Place.titled_child _ other)).mpr
      ⟨h, archiveDir_ne_source hapart.archive, source_ne_target hdirs⟩
  case arrive =>
    intro t e he h
    exact (Tree.mem_namesAt_withEntry (Place.titled_child _ other) he).mpr
      (.inl ⟨h, archiveDir_ne_target⟩)

/-! ## What the working directory holds -/

/-- **The files in the working directory** are just these, each of them empty and of some length. -/
structure Holds (s : Sweeper) (files : List (String × UInt64)) (t : Tree) : Prop where
  listed : ∀ file ∈ files, file.1 ∈ t.namesAt s.workingDir.components ∧
    t.fileAt? (s.source file.1) = some (.file [] file.2)
  others : ∀ name, name ∉ files.map Prod.fst → t.fileAt? (s.source name) = none

namespace Holds

variable {files : List (String × UInt64)}

/-- A working directory without any files. -/
theorem of_no_file (h : ∀ name, t.fileAt? (s.source name) = none) : s.Holds [] t :=
  ⟨fun _ hmem => absurd hmem List.not_mem_nil, fun name _ => h name⟩

/-- **What is meant to become of a name**: a file goes its way by its length, and anything else is passed
over. -/
theorem meant_cases (h : s.Holds files t) (name : String) :
    (∃ len, (name, len) ∈ files ∧ s.meant t name = (classify len s.threshold).outcome) ∨
      name ∉ files.map Prod.fst ∧ s.meant t name = .skipped := by
  by_cases hmem : name ∈ files.map Prod.fst
  · obtain ⟨⟨_, len⟩, hfile, rfl⟩ := List.mem_map.mp hmem
    exact .inl ⟨len, hfile, meant_file (h.listed _ hfile).2⟩
  · exact .inr ⟨hmem, meant_of_no_file (h.others name hmem)⟩

/-- **The files of a disposition are counted** by the names for which its outcome is meant. -/
theorem length_filter_meant (h : s.Holds files t) (hfiles : (files.map Prod.fst).Nodup)
    {names : List String} (hnodup : names.Nodup)
    (hnames : ∀ name, name ∈ names ↔ name ∈ t.namesAt s.workingDir.components)
    (disposition : Disposition) :
    (names.filter fun name => s.meant t name == disposition.outcome).length =
      files.countP fun file => classify file.2 s.threshold = disposition := by
  have hperm : (names.filter fun name => s.meant t name == disposition.outcome).Perm
      ((files.filter fun file => classify file.2 s.threshold = disposition).map Prod.fst) := by
    rw [List.perm_ext_iff_of_nodup (hnodup.filter _)
      (hfiles.sublist (List.filter_sublist.map Prod.fst))]
    intro name
    simp only [List.mem_filter, List.mem_map, beq_iff_eq, decide_eq_true_eq, hnames]
    constructor
    · rintro ⟨hlisted, houtcome⟩
      rcases h.meant_cases name with ⟨len, hfile, hclass⟩ | ⟨-, hskipped⟩
      · refine ⟨(name, len), ⟨hfile, ?_⟩, rfl⟩
        exact Disposition.outcome_injective (hclass.symm.trans houtcome)
      · exact absurd (hskipped.symm.trans houtcome) disposition.outcome_ne_skipped.symm
    · rintro ⟨⟨_, len⟩, ⟨hfile, hclass⟩, rfl⟩
      exact ⟨(h.listed _ hfile).1, (meant_file (h.listed _ hfile).2).trans (by rw [hclass])⟩
  rw [hperm.length_eq, List.length_map, List.countP_eq_length_filter]

end Holds

/-! ## The whole sweep -/

/-- **A sweep that clears the working directory**: nothing fails, the files are counted by what was to
become of them, none is left behind, those that were to be archived are in the archive, and everything
else in the archive is as it was. -/
structure Clears (s : Sweeper) (files : List (String × UInt64)) (t : Tree) (report : Report)
    (after : Tree) : Prop where
  archived : report.archived.length = files.countP fun file => classify file.2 s.threshold = .archive
  deleted : report.deleted.length = files.countP fun file => classify file.2 s.threshold = .delete
  failures : report.failures = []
  tended : s.Tended after
  holds : s.Holds [] after
  arrived : ∀ file ∈ files, classify file.2 s.threshold = .archive →
    after.fileAt? (s.target file.1) = some (.file [] file.2) ∧
      file.1 ∈ after.namesAt s.archiveDir.components
  kept : ∀ name, (∀ file ∈ files, classify file.2 s.threshold = .archive → name ≠ file.1) →
    after.fileAt? (s.target name) = t.fileAt? (s.target name)
  listed : ∀ name ∈ t.namesAt s.archiveDir.components, name ∈ after.namesAt s.archiveDir.components

section Names

variable {names : List String} {files : List (String × UInt64)}

/-- Nothing stands against the names that are listed. -/
theorem Tended.unobstructed (h : s.Tended t) (hapart : s.Apart) (hnodup : names.Nodup)
    (hnames : ∀ name, name ∈ names ↔ name ∈ t.namesAt s.workingDir.components) :
    s.Unobstructed names { store := t } := by
  have hpresent (name : String) (hmem : name ∈ names) := h.present name ((hnames name).mp hmem)
  exact ⟨dirs_ne hapart.archive, fun name hmem => (hpresent name hmem).1, hnodup,
    fun name hmem => h.unhindered h.prospect (hpresent name hmem).2⟩

/-- No file is left in the working directory, whichever way it was to go. -/
theorem Holds.gone (hholds : s.Holds files t) (hclear : s.Unobstructed names { store := t })
    (hnames : ∀ name, name ∈ names ↔ name ∈ t.namesAt s.workingDir.components) (name : String) :
    (s.handleNames names { store := t }).2.fileAt? (s.source name) = none := by
  by_cases hmem : name ∈ names
  · exact hclear.no_file hmem
  -- where no file was, none comes
  · rw [handleNames_store s hclear.isName]
    refine no_file_passAfter hclear.dirs hclear.isName (hholds.others name fun hfile => hmem ?_)
    obtain ⟨file, hmem', rfl⟩ := List.mem_map.mp hfile
    exact (hnames _).mpr (hholds.listed file hmem').1

/-- A file that is to be archived is in the archive afterwards, and is listed there. -/
theorem Holds.arrived (hholds : s.Holds files t) (h : s.Tended t) (hapart : s.Apart)
    (hclear : s.Unobstructed names { store := t })
    (hnames : ∀ name, name ∈ names ↔ name ∈ t.namesAt s.workingDir.components)
    {file : String × UInt64} (hfile : file ∈ files)
    (hclass : classify file.2 s.threshold = .archive) :
    (s.handleNames names { store := t }).2.fileAt? (s.target file.1) = some (.file [] file.2) ∧
      file.1 ∈ (s.handleNames names { store := t }).2.namesAt s.archiveDir.components := by
  obtain ⟨hlisted, hthere⟩ := hholds.listed file hfile
  have hmem := (hnames _).mpr hlisted
  constructor
  · have hfate := hclear.fate hmem hthere
    rw [hclass] at hfate
    exact hfate.arrived
  -- it is listed when its turn is over, and from then on
  · obtain ⟨front, back, hfront, -, hfronts, hbacks, -, hstore⟩ :=
      s.exists_turn hclear.isName hclear.nodup hmem { store := t }
    have hturn := (fileAt?_passAfter hclear.dirs hfronts hfront { store := t }).1.trans hthere
    have hprospect := (alike_passAfter hapart.archive hfronts hfront { store := t }).prospect.trans
      h.prospect
    rw [hstore]
    exact mem_namesAt_passAfter hapart hbacks (Tended.handleName_archive hapart
      (hclear.isName _ hmem) (h.passAfter hapart hfronts) hprospect hturn hclass).2

/-- All other files in the archive are as they were. -/
theorem Holds.kept (hholds : s.Holds files t) (hclear : s.Unobstructed names { store := t })
    (hother : ∀ file ∈ files, classify file.2 s.threshold = .archive → name ≠ file.1) :
    (s.handleNames names { store := t }).2.fileAt? (s.target name) =
      t.fileAt? (s.target name) := by
  rw [handleNames_store s hclear.isName]
  refine fileAt?_passAfter_of_untouched hclear.dirs hclear.isName hclear.nodup
    (fun _ _ _ _ => (source_ne_target hclear.dirs).symm) ?_
  rintro other hmem ⟨contents, len, hfile, hclass⟩ heq
  obtain rfl := target_injective heq
  by_cases hmem' : name ∈ files.map Prod.fst
  · obtain ⟨file, hfile', rfl⟩ := List.mem_map.mp hmem'
    have hsame := hfile.symm.trans (hholds.listed file hfile').2
    simp only [Option.some.injEq, Entry.file.injEq] at hsame
    exact hother file hfile' (hsame.2 ▸ hclass) rfl
  · rw [hholds.others name hmem'] at hfile
    cases hfile

end Names

/-- **Where nothing stands against it, a sweep clears the working directory.** -/
theorem Tended.exists_clear (h : s.Tended t) (hapart : s.Apart) {files : List (String × UInt64)}
    (hfiles : (files.map Prod.fst).Nodup) (hholds : s.Holds files t) :
    ∃ report after, s.sweep Tree.fileSystem t = (.ok report, after) ∧
      s.Clears files t report after := by
  obtain ⟨names, horder, hnames, hisname, hsweep⟩ := h.listable.exists_names (h.free _ _)
  have hclear := h.unobstructed hapart horder.nodup hnames
  have hcount (disposition : Disposition) :
      (Report.names { entries := (s.handleNames names { store := t }).1 }
        disposition.outcome).length =
          files.countP fun file => classify file.2 s.threshold = disposition := by
    rw [← hholds.length_filter_meant hfiles hclear.nodup hnames, hclear.outcomes_eq, Report.names,
      List.length_map, List.filter_map, List.length_map]
    rfl
  refine ⟨_, _, hsweep, ?_⟩
  constructor
  case archived => exact hcount .archive
  case deleted => exact hcount .delete
  case failures => exact hclear.failures_eq_nil
  case tended =>
    rw [handleNames_store s hisname]
    exact h.passAfter hapart hisname
  case holds => exact .of_no_file (hholds.gone hclear hnames)
  case arrived => exact fun file hfile => hholds.arrived h hapart hclear hnames hfile
  case kept => exact fun name => hholds.kept hclear
  case listed =>
    intro name hmem
    rw [handleNames_store s hisname]
    exact mem_namesAt_passAfter hapart hisname hmem

end Sweeper

end RunSweep
