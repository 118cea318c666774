import RunSweep.Proofs.Path.Order
import RunSweep.Proofs.Storage.Listings
import RunSweep.Proofs.Sweep.Steps

/-!
# The listing of the working directory

A sweep sorts the listing by its paths, and the paths of one directory stand in the order of the bytes of
their names. `Sweeper.Listable` says what it takes to list the working directory: it is there, and lists
names, none of them twice. The three changes that a sweep makes keep it so, and take out of the listing
the name of a file that leaves, and nothing else.
-/

namespace RunSweep.Sweeper

variable {s : Sweeper} {t : Tree} {name other : String}

/-- To put a listing in order is to sort it. -/
theorem pairwise_inOrder (paths : List Path) :
    (inOrder paths).Pairwise fun p q => p.precedes q = true :=
  List.pairwise_mergeSort Path.precedes_trans Path.precedes_total paths

theorem perm_inOrder (paths : List Path) : (inOrder paths).Perm paths :=
  List.mergeSort_perm paths _

/-! ## Names in the order of their bytes -/

/-- Names that are increasing, byte by byte. -/
def InByteOrder (names : List String) : Prop :=
  names.Pairwise fun a b => Utf8.encode a < Utf8.encode b

theorem InByteOrder.nodup {names : List String} (h : InByteOrder names) : names.Nodup := by
  refine List.Pairwise.imp (fun {a b} hlt => ?_) h
  rintro rfl
  exact List.lt_irrefl _ hlt

/-- **The names that a sweep handles increase**: their paths are in order, and none is there twice. -/
theorem inByteOrder_of_inOrder {names : List String} {paths : List Path}
    (hpaths : inOrder paths = names.map s.entryPath) (hnodup : names.Nodup)
    (hnames : ∀ name ∈ names, Path.IsName (Utf8.encode name)) : InByteOrder names := by
  have hsorted := pairwise_inOrder paths
  rw [hpaths, List.pairwise_map] at hsorted
  refine (hsorted.and hnodup).imp_of_mem fun ha hb ⟨hprecedes, hne⟩ => ?_
  have hnot := (Path.precedes_join _ (hnames _ ha) (hnames _ hb)).mp hprecedes
  by_contra hnot'
  exact hne (Utf8.encode_injective (Std.Trichotomous.trichotomous (r := (· < ·)) _ _ hnot' hnot))

/-- Names that are increasing are told by what they are. -/
theorem InByteOrder.eq_of_mem_iff {names names' : List String} (h : InByteOrder names)
    (h' : InByteOrder names') (hmem : ∀ name, name ∈ names ↔ name ∈ names') : names = names' := by
  have hperm : names.Perm names' := (List.perm_ext_iff_of_nodup h.nodup h'.nodup).mpr hmem
  exact hperm.eq_of_pairwise (fun a b _ _ hab hba => absurd hba (List.lt_asymm hab)) h h'

/-- **A working directory that can be swept**: it is there, and lists names, none of them twice. -/
structure Listable (s : Sweeper) (t : Tree) : Prop where
  working : t.isDir s.workingDir = true
  nodup : (t.namesAt s.workingDir.components).Nodup
  isName : ∀ name ∈ t.namesAt s.workingDir.components, Path.IsName (Utf8.encode name)

theorem Listable.of_tidy (ht : t.Tidy) (hworking : t.isDir s.workingDir = true) :
    s.Listable t := by
  obtain ⟨children, hdir⟩ := Tree.exists_children (Tree.isDir_iff.mp hworking)
  obtain ⟨hnodup, hnames⟩ := ht _ children hdir
  rw [← Tree.namesAt_of_dir hdir] at hnodup hnames
  exact ⟨hworking, hnodup, hnames⟩

/-- **A sweep of a working directory that can be listed** handles its names in the order of their bytes. -/
theorem Listable.exists_names (h : s.Listable t)
    (hfree : t.refuses .readDir s.workingDir.components = false) :
    ∃ names : List String, InByteOrder names ∧
      (∀ name, name ∈ names ↔ name ∈ t.namesAt s.workingDir.components) ∧
      (∀ name ∈ names, Path.IsName (Utf8.encode name)) ∧
        s.sweep Tree.fileSystem t =
          (.ok { entries := (s.handleNames names { store := t }).1 },
            (s.handleNames names { store := t }).2) := by
  obtain ⟨children, hdir⟩ := Tree.exists_children (Tree.isDir_iff.mp h.working)
  have hchildren := Tree.namesAt_of_dir hdir
  have hread := Tree.readDir_eq_ok_iff.mpr ⟨hfree, children, hdir, rfl⟩
  obtain ⟨names, horder, hperm⟩ := s.exists_order children
  have hlisted (name : String) : name ∈ names ↔ name ∈ t.namesAt s.workingDir.components := by
    rw [hperm.mem_iff, hchildren]
  have hnames : ∀ name ∈ names, Path.IsName (Utf8.encode name) :=
    fun name hmem => h.isName name ((hlisted name).mp hmem)
  have hnodup : names.Nodup := hperm.nodup_iff.mpr (hchildren ▸ h.nodup)
  refine ⟨names, inByteOrder_of_inOrder horder hnodup hnames, hlisted, hnames, ?_⟩
  rw [sweep_tree, hread]
  dsimp only
  rw [show (children.map fun name => s.workingDir.join (Utf8.encode name)) =
    children.map s.entryPath from rfl, horder]
  rfl

/-- **A sweep that ends well** has listed the working directory, and handled its names in the order of
their bytes. -/
theorem exists_order_of_sweep {after : Tree} {report : Report} (ht : t.Tidy)
    (h : s.sweep Tree.fileSystem t = (.ok report, after)) :
    s.Listable t ∧ t.refuses .readDir s.workingDir.components = false ∧
      ∃ names : List String, InByteOrder names ∧
        (∀ name, name ∈ names ↔ name ∈ t.namesAt s.workingDir.components) ∧
        (∀ name ∈ names, Path.IsName (Utf8.encode name)) ∧
          report.entries = (s.handleNames names { store := t }).1 ∧
            after = (s.handleNames names { store := t }).2 := by
  rcases hread : t.readDir s.workingDir with fault | paths
  · rw [sweep_tree, hread] at h
    cases h
  obtain ⟨hfree, children, hdir, -⟩ := Tree.readDir_eq_ok_iff.mp hread
  have hworking : t.isDir s.workingDir = true := by
    rw [Tree.isDir, hdir]
    rfl
  have hlistable : s.Listable t := .of_tidy ht hworking
  obtain ⟨names, horder, hlisted, hnames, hsweep⟩ := hlistable.exists_names hfree
  obtain ⟨hreport, hafter⟩ := Prod.mk.inj (h.symm.trans hsweep)
  exact ⟨hlistable, hfree, names, horder, hlisted, hnames,
    congrArg Report.entries (Except.ok.inj hreport), hafter⟩

/-! ## What changes the listing -/

/-- Making the archive directory changes no listing but those above it. -/
theorem namesAt_ensureDir_archive (hdirs : ¬s.workingDir.components <+: s.archiveDir.components) :
    (t.ensureDir s.archiveDir.components).namesAt s.workingDir.components =
      t.namesAt s.workingDir.components := by
  rw [Tree.namesAt, Tree.find?_ensureDir_of_not_above t hdirs, Tree.namesAt]

/-- A file that leaves the working directory takes its name along, and no other. -/
theorem mem_namesAt_without_source :
    other ∈ (t.without (s.source name)).namesAt s.workingDir.components ↔
      other ∈ t.namesAt s.workingDir.components ∧ other ≠ name := by
  have htitled : Place.Titled (s.source name) := Place.titled_child s.workingDir.components name
  have hne : s.workingDir.components ≠ s.source name := Place.ne_child _ name
  have hinj : s.source name ≠ Place.child s.workingDir.components other ↔ other ≠ name :=
    not_congr (source_injective.eq_iff.trans eq_comm)
  rw [Tree.mem_namesAt_without htitled, hinj]
  exact ⟨fun ⟨hmem, _, hother⟩ => ⟨hmem, hother⟩, fun ⟨hmem, hother⟩ => ⟨hmem, hne, hother⟩⟩

/-- A file that comes into the archive is not listed in the working directory. -/
theorem mem_namesAt_withEntry_target (hdirs : s.workingDir.components ≠ s.archiveDir.components)
    (hne : s.workingDir.components ≠ s.target name) {e : Entry} (he : e.isDir = false) :
    other ∈ (t.withEntry (s.target name) e).namesAt s.workingDir.components ↔
      other ∈ t.namesAt s.workingDir.components := by
  have htitled : Place.Titled (s.target name) := Place.titled_child s.archiveDir.components name
  have hcross : s.target name ≠ Place.child s.workingDir.components other :=
    (source_ne_target hdirs).symm
  rw [Tree.mem_namesAt_withEntry htitled he]
  exact ⟨fun h => (h.resolve_right fun hnew => hcross hnew.1).1, fun h => .inl ⟨h, hne⟩⟩

namespace Listable

theorem ensureDir (h : s.Listable t) (hdirs : ¬s.workingDir.components <+: s.archiveDir.components) :
    s.Listable (t.ensureDir s.archiveDir.components) := by
  have hnames := namesAt_ensureDir_archive (t := t) hdirs
  constructor
  case working =>
    exact Tree.isDir_iff.mpr (Tree.kindAt?_ensureDir_of_some (Tree.isDir_iff.mp h.working))
  case nodup => exact hnames ▸ h.nodup
  case isName => exact hnames ▸ h.isName

theorem leave (h : s.Listable t) (name : String) : s.Listable (t.without (s.source name)) := by
  have hne : s.workingDir.components ≠ s.source name := Place.ne_child _ name
  constructor
  case working =>
    rw [Tree.isDir_iff, Tree.kindAt?_without_of_ne _ hne]
    exact Tree.isDir_iff.mp h.working
  case nodup => exact Tree.nodup_namesAt_without h.nodup
  case isName => exact fun other hmem => h.isName other (mem_namesAt_without_source.mp hmem).1

theorem arrive (h : s.Listable t) (hdirs : s.workingDir.components ≠ s.archiveDir.components)
    (hne : s.workingDir.components ≠ s.target name) {e : Entry} (he : e.isDir = false) :
    s.Listable (t.withEntry (s.target name) e) := by
  constructor
  case working =>
    rw [Tree.isDir_iff, Tree.kindAt?_withEntry_of_ne _ _ hne]
    exact Tree.isDir_iff.mp h.working
  case nodup => exact Tree.nodup_namesAt_withEntry he h.nodup
  case isName =>
    exact fun other hmem => h.isName other ((mem_namesAt_withEntry_target hdirs hne he).mp hmem)

/-- The working directory can still be listed after a name has been handled. -/
theorem handleName {p : Pass Tree} (h : s.Listable p.store) (hname : Path.IsName (Utf8.encode name))
    (hdirs : ¬s.workingDir.components <+: s.archiveDir.components)
    (hne : s.workingDir.components ≠ s.target name) : s.Listable (s.handleName name p).2.store := by
  have hdirs' : s.workingDir.components ≠ s.archiveDir.components :=
    fun heq => hdirs (heq ▸ List.prefix_rfl)
  exact s.handleName_preserves hname p (fun _ _ h => h.ensureDir hdirs) (fun _ h => h.leave name)
    (fun _ _ he h => h.arrive hdirs' hne he) h

end Listable

end RunSweep.Sweeper
