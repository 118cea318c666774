import RunSweep.Proofs.Storage.Permutation
import RunSweep.Proofs.Sweep.Isolation
import RunSweep.Proofs.Sweep.Listing

/-!
# The order of a listing does not matter

In which order files came into a directory decides in which order it lists them. A sweep puts the listing
in order before it does anything, so two trees that differ in the order of names only give it the same
names to handle, one after the other. Each part of a sweep then ends alike in both, and leaves trees that
differ again in the order of names only.
-/

namespace RunSweep.Sweeper

variable {s : Sweeper}

/-- Moving a file in permuted trees ends alike, and leaves permuted trees. -/
theorem permuted_moveFile (source target : Path) {t u : Tree} (h : t.Permuted u) :
    (moveFile Tree.fileSystem source target t).1 = (moveFile Tree.fileSystem source target u).1 ∧
      (moveFile Tree.fileSystem source target t).2.Permuted
        (moveFile Tree.fileSystem source target u).2 := by
  rw [moveFile_tree, moveFile_tree, h.allowMove_eq .rename, h.allowMove_eq .copy]
  rcases u.allowMove .rename source target with onRename | e
  · rcases u.allowMove .copy source target with onCopy | e
    · exact ⟨rfl, h⟩
    -- the source is to be removed from trees that hold the copy, both of them
    · have hcopied := h.withEntry target.components e
      dsimp only
      rw [hcopied.allowRemoval_eq]
      rcases (u.withEntry target.components e).allowRemoval source with fault | _
      · exact ⟨rfl, hcopied⟩
      · exact ⟨rfl, hcopied.without source.components⟩
  · exact ⟨rfl, (h.without source.components).withEntry target.components e⟩

/-! ## Passes over permuted trees -/

/-- Two passes have come equally far over permuted trees. -/
structure Pass.Permuted (p q : Pass Tree) : Prop where
  store : p.store.Permuted q.store
  ready : p.ready = q.ready

variable {p q : Pass Tree}

theorem permuted_ensureArchive (s : Sweeper) (h : p.Permuted q) :
    (s.ensureArchive Tree.fileSystem p).1 = (s.ensureArchive Tree.fileSystem q).1 ∧
      (s.ensureArchive Tree.fileSystem p).2.Permuted (s.ensureArchive Tree.fileSystem q).2 := by
  have hmade := h.store.ensureDir s.archiveDir.components
  rw [ensureArchive_tree, ensureArchive_tree, h.ready, h.store.isDir_eq, h.store.allowDir_eq]
  split_ifs
  · exact ⟨rfl, h⟩
  · exact ⟨rfl, h.store, rfl⟩
  rcases q.store.allowDir s.archiveDir with fault | _
  · exact ⟨rfl, h⟩
  · exact ⟨rfl, hmade, rfl⟩

theorem permuted_archiveFile (s : Sweeper) (path : Path) (name : Bytes) (h : p.Permuted q) :
    (s.archiveFile Tree.fileSystem path name p).1 = (s.archiveFile Tree.fileSystem path name q).1 ∧
      (s.archiveFile Tree.fileSystem path name p).2.Permuted
        (s.archiveFile Tree.fileSystem path name q).2 := by
  obtain ⟨hresult, hready⟩ := permuted_ensureArchive s h
  unfold archiveFile
  generalize s.ensureArchive Tree.fileSystem p = left at hresult hready ⊢
  generalize s.ensureArchive Tree.fileSystem q = right at hresult hready ⊢
  obtain ⟨result, p'⟩ := left
  obtain ⟨result', q'⟩ := right
  obtain rfl : result = result' := hresult
  cases result with
  | error fault => exact ⟨rfl, hready⟩
  | ok =>
      obtain ⟨houtcome, hstore⟩ := permuted_moveFile path (s.archiveDir.join name) hready.store
      exact ⟨houtcome, hstore, hready.ready⟩

theorem permuted_deleteFile (path : Path) (h : p.Permuted q) :
    (deleteFile Tree.fileSystem path p).1 = (deleteFile Tree.fileSystem path q).1 ∧
      (deleteFile Tree.fileSystem path p).2.Permuted (deleteFile Tree.fileSystem path q).2 := by
  rw [deleteFile_tree, deleteFile_tree, h.store.allowRemoval_eq]
  rcases q.store.allowRemoval path with fault | _
  · exact ⟨rfl, h⟩
  · exact ⟨rfl, h.store.without path.components, h.ready⟩

/-- **Handling a path in permuted trees** has one outcome, and leaves permuted trees. -/
theorem permuted_handle (s : Sweeper) (path : Path) (name : Bytes) (h : p.Permuted q) :
    (s.handle Tree.fileSystem path name p).1 = (s.handle Tree.fileSystem path name q).1 ∧
      (s.handle Tree.fileSystem path name p).2.Permuted
        (s.handle Tree.fileSystem path name q).2 := by
  rw [handle_tree, handle_tree, h.store.metadata_eq]
  rcases q.store.metadata path with fault | info
  · exact ⟨rfl, h⟩
  dsimp only
  split_ifs
  · exact ⟨rfl, h⟩
  cases classify info.len s.threshold with
  | archive => exact permuted_archiveFile s path name h
  | delete => exact permuted_deleteFile path h

/-- Handling paths one after the other. -/
theorem permuted_handleAll (s : Sweeper) (paths : List Path) (h : p.Permuted q) :
    (s.handleAll Tree.fileSystem paths p).1 = (s.handleAll Tree.fileSystem paths q).1 ∧
      (s.handleAll Tree.fileSystem paths p).2.Permuted
        (s.handleAll Tree.fileSystem paths q).2 := by
  induction paths generalizing p q with
  | nil => exact ⟨rfl, h.store⟩
  | cons path paths ih =>
      rw [handleAll, handleAll]
      cases path.fileName? with
      | none => exact ih h
      | some name =>
          obtain ⟨houtcome, hnext⟩ := permuted_handle s path name h
          obtain ⟨houtcomes, hstore⟩ := ih hnext
          dsimp only
          rw [houtcome, houtcomes]
          exact ⟨rfl, hstore⟩

/-! ## The whole sweep -/

/-- **A listing put in order** is the same for permuted trees. -/
theorem inOrder_eq_of_permuted {t u : Tree} (h : t.Permuted u) (ht : t.Tidy) {paths paths' : List Path}
    (hread : t.readDir s.workingDir = .ok paths) (hread' : u.readDir s.workingDir = .ok paths') :
    inOrder paths = inOrder paths' := by
  obtain ⟨names, hpaths, hnodup, hlisted, hnames⟩ := exists_listing s ht hread
  obtain ⟨names', hpaths', hnodup', hlisted', hnames'⟩ := exists_listing s (h.tidy ht) hread'
  have hmem (name : String) : name ∈ names ↔ name ∈ names' := by
    rw [hlisted, hlisted', Tree.mem_list_iff_namesAt, Tree.mem_list_iff_namesAt,
      (h.namesAt_perm _).mem_iff]
  have horder := inByteOrder_of_inOrder hpaths hnodup hnames
  have horder' := inByteOrder_of_inOrder hpaths' hnodup' hnames'
  rw [hpaths, hpaths', horder.eq_of_mem_iff horder' hmem]

/-- **The order of a listing does not matter.** Take a tree that edits lead to, with whatever operations
are to fail, and another that lists in each directory the same names in some order, and is the same
otherwise. A sweep tells the same of both: one report, or one reason why the working directory cannot be
listed. And it leaves trees that again differ in the order of names only. -/
theorem sweep_ignores_order {t u : Tree} (ht : t.Reachable) (h : t.Permuted u) (s : Sweeper) :
    (s.sweep Tree.fileSystem t).1 = (s.sweep Tree.fileSystem u).1 ∧
      (s.sweep Tree.fileSystem t).2.Permuted (s.sweep Tree.fileSystem u).2 := by
  rw [sweep_tree, sweep_tree]
  rcases hread : t.readDir s.workingDir with fault | paths
  · rw [h.readDir_eq_error_iff.mp hread]
    exact ⟨rfl, h⟩
  rcases hread' : u.readDir s.workingDir with fault | paths'
  · cases hread.symm.trans (h.readDir_eq_error_iff.mpr hread')
  have hstart : Pass.Permuted { store := t } { store := u } := ⟨h, rfl⟩
  obtain ⟨houtcomes, hstore⟩ := permuted_handleAll s (inOrder paths) hstart
  dsimp only
  rw [← inOrder_eq_of_permuted h ht.tidy hread hread']
  exact ⟨by rw [houtcomes], hstore⟩

/-- Two files listed the other way round end up the same. -/
theorem reversed_listing_swept_alike :
    let reversed := twoFiles.mapChildren hundredMegabytes.workingDir.components List.reverse
    (reversed.find? hundredMegabytes.workingDir.components = some (.dir ["b.dat", "a.dat"]) ∧
      twoFiles.Permuted reversed) ∧
      (hundredMegabytes.sweep Tree.fileSystem twoFiles).1.isOk = true ∧
      (hundredMegabytes.sweep Tree.fileSystem twoFiles).1 =
        (hundredMegabytes.sweep Tree.fileSystem reversed).1 ∧
      (hundredMegabytes.sweep Tree.fileSystem twoFiles).2.Permuted
        (hundredMegabytes.sweep Tree.fileSystem reversed).2 := by
  intro reversed
  have hpermuted : twoFiles.Permuted reversed :=
    .of_mapChildren _ _ fun names => (List.reverse_perm names).symm
  refine ⟨⟨?_, hpermuted⟩, ?_, sweep_ignores_order twoFiles_reachable hpermuted hundredMegabytes⟩
  · rw [Tree.find?_mapChildren, if_pos rfl, twoFiles_dir]
    rfl
  · rw [sweep_tree, twoFiles_readDir]
    rfl

end RunSweep.Sweeper
