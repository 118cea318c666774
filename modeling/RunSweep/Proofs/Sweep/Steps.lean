import RunSweep.Proofs.Storage.Reachable
import RunSweep.Sweep.Basic

/-!
# Sweeping a tree, name by name

A sweep of a tree that edits lead to handles the names that the working directory lists, each once and in
the order of their paths. A name has two places, its `source` in the working directory and its `target`
in the archive, and handling it changes only these and the archive directory.
-/

namespace RunSweep

/-- Whether a file has come into the archive. It may be in the working directory as well. -/
def Outcome.hasArrived : Outcome → Bool
  | archived | failed (.leftBehind _) => true
  | _ => false

namespace Sweeper

variable (s : Sweeper)

/-- The path under which the working directory lists a name. -/
def entryPath (name : String) : Path :=
  s.workingDir.join (Utf8.encode name)

/-- The path under which a name is archived. -/
def archivePath (name : String) : Path :=
  s.archiveDir.join (Utf8.encode name)

/-- The place of a name in the working directory. -/
def source (name : String) : Place :=
  s.workingDir.components ++ [.name (Utf8.encode name)]

/-- The place of a name in the archive directory. -/
def target (name : String) : Place :=
  s.archiveDir.components ++ [.name (Utf8.encode name)]

/-- Handle the entry of a tree that the working directory lists under a name. -/
def handleName (name : String) (p : Pass Tree) : Outcome × Pass Tree :=
  s.handle Tree.fileSystem (s.entryPath name) (Utf8.encode name) p

/-! ## Places -/

section Places

variable {s} {name other : String}

theorem components_entryPath (h : Path.IsName (Utf8.encode name)) :
    (s.entryPath name).components = s.source name :=
  Path.components_join _ h

theorem components_archivePath (h : Path.IsName (Utf8.encode name)) :
    (s.archivePath name).components = s.target name :=
  Path.components_join _ h

theorem source_injective : Function.Injective s.source := by
  intro name other h
  have hlast := (List.append_inj_right h rfl)
  rw [List.cons.injEq, Component.name.injEq] at hlast
  exact Utf8.encode_injective hlast.1

theorem target_injective : Function.Injective s.target := by
  intro name other h
  have hlast := (List.append_inj_right h rfl)
  rw [List.cons.injEq, Component.name.injEq] at hlast
  exact Utf8.encode_injective hlast.1

theorem source_ne_target (hdirs : s.workingDir.components ≠ s.archiveDir.components) :
    s.source name ≠ s.target other := by
  intro h
  exact hdirs (List.append_inj_left' h rfl)

end Places

/-! ## What each step does to a tree -/

theorem ensureArchive_tree (p : Pass Tree) :
    s.ensureArchive Tree.fileSystem p =
      if p.ready || !s.createArchiveDir then (.ok (), p)
      else if p.store.isDir s.archiveDir then (.ok (), { p with ready := true })
      else
        match p.store.allowDir s.archiveDir with
        | .ok _ => (.ok (), { store := p.store.ensureDir s.archiveDir.components, ready := true })
        | .error fault => (.error fault, p) := by
  unfold ensureArchive
  rw [Tree.fileSystem_isDir]
  by_cases hready : (p.ready || !s.createArchiveDir) = true
  · rw [if_pos hready, if_pos hready]
  rw [if_neg hready, if_neg hready]
  dsimp only
  by_cases hthere : p.store.isDir s.archiveDir = true
  · rw [if_pos hthere, if_pos hthere]
  rw [if_neg hthere, if_neg hthere, Tree.fileSystem_createDirAll]
  rcases p.store.allowDir s.archiveDir with fault | _ <;> rfl

theorem moveFile_tree (source target : Path) (t : Tree) :
    moveFile Tree.fileSystem source target t =
      match t.allowMove .rename source target with
      | .ok e => (.archived, (t.without source.components).withEntry target.components e)
      | .error onRename =>
          match t.allowMove .copy source target with
          | .error onCopy => (.failed (.move onRename onCopy), t)
          | .ok e =>
              match (t.withEntry target.components e).allowRemoval source with
              | .error fault => (.failed (.leftBehind fault), t.withEntry target.components e)
              | .ok _ => (.archived, (t.withEntry target.components e).without source.components) := by
  unfold moveFile
  rw [Tree.fileSystem_rename]
  rcases t.allowMove .rename source target with onRename | e
  · dsimp only
    rw [Tree.fileSystem_copy]
    rcases t.allowMove .copy source target with onCopy | e
    · rfl
    · dsimp only
      rw [Tree.fileSystem_removeFile]
      rcases (t.withEntry target.components e).allowRemoval source with fault | _ <;> rfl
  · rfl

theorem deleteFile_tree (path : Path) (p : Pass Tree) :
    deleteFile Tree.fileSystem path p =
      match p.store.allowRemoval path with
      | .ok _ => (.deleted, { p with store := p.store.without path.components })
      | .error fault => (.failed (.delete fault), p) := by
  unfold deleteFile
  rw [Tree.fileSystem_removeFile]
  rcases p.store.allowRemoval path with fault | _ <;> rfl

theorem handle_tree (path : Path) (name : Bytes) (p : Pass Tree) :
    s.handle Tree.fileSystem path name p =
      match p.store.metadata path with
      | .error fault => (.failed (.stat fault), p)
      | .ok info =>
          if info.isDir then (.skipped, p)
          else
            match classify info.len s.threshold with
            | .archive => s.archiveFile Tree.fileSystem path name p
            | .delete => deleteFile Tree.fileSystem path p := by
  unfold handle
  rw [Tree.fileSystem_metadata]
  rcases p.store.metadata path with fault | info <;> rfl

/-! ## What handling a path can do -/

/-- Nothing is left to be done about the archive directory. -/
def Settled (s : Sweeper) (p : Pass Tree) : Prop :=
  (p.ready || !s.createArchiveDir) = true

theorem not_settled_iff {s : Sweeper} {p : Pass Tree} :
    ¬s.Settled p ↔ p.ready = false ∧ s.createArchiveDir = true := by
  simp [Settled]

/-- The archive directory has been seen to: it may have been made, unless that was settled before. -/
structure Prepared (s : Sweeper) (p p' : Pass Tree) : Prop where
  settled : s.Settled p'
  same : s.Settled p → p' = p
  store : p'.store = p.store ∨
    ¬s.Settled p ∧ p'.store = p.store.ensureDir s.archiveDir.components

/-- The archive directory is seen to, or nothing happens. -/
theorem ensureArchive_cases (p : Pass Tree) :
    (∃ fault, s.ensureArchive Tree.fileSystem p = (.error fault, p)) ∨
      ∃ p', s.ensureArchive Tree.fileSystem p = (.ok (), p') ∧ s.Prepared p p' := by
  rw [ensureArchive_tree]
  split_ifs with hsettled hthere
  · exact .inr ⟨p, rfl, hsettled, fun _ => rfl, .inl rfl⟩
  · exact .inr ⟨_, rfl, rfl, fun h => absurd h hsettled, .inl rfl⟩
  · rcases p.store.allowDir s.archiveDir with fault | _
    · exact .inl ⟨fault, rfl⟩
    · exact .inr ⟨_, rfl, rfl, fun h => absurd h hsettled, .inr ⟨hsettled, rfl⟩⟩

/-- **What handling a path does**: nothing at all, or it moves the file once the archive directory has
been seen to, or it removes the file. -/
theorem handle_cases (path : Path) (name : Bytes) (p : Pass Tree) :
    (∃ outcome, s.handle Tree.fileSystem path name p = (outcome, p) ∧ outcome.hasArrived = false) ∨
      (∃ p' moved, s.handle Tree.fileSystem path name p =
          (moved.1, { p' with store := moved.2 }) ∧
        s.Prepared p p' ∧ moved = moveFile Tree.fileSystem path (s.archiveDir.join name) p'.store) ∨
        ∃ e, s.handle Tree.fileSystem path name p =
            (.deleted, { p with store := p.store.without path.components }) ∧
          p.store.allowRemoval path = .ok e := by
  rw [handle_tree]
  rcases p.store.metadata path with fault | info
  · exact .inl ⟨_, rfl, rfl⟩
  dsimp only
  by_cases hdir : info.isDir = true
  · rw [if_pos hdir]
    exact .inl ⟨_, rfl, rfl⟩
  rw [if_neg hdir]
  cases classify info.len s.threshold with
  | archive =>
      dsimp only
      unfold archiveFile
      rcases s.ensureArchive_cases p with ⟨fault, hensure⟩ | ⟨p', hensure, hprepared⟩
      · rw [hensure]
        exact .inl ⟨_, rfl, rfl⟩
      · rw [hensure]
        exact .inr (.inl ⟨p', _, rfl, hprepared, rfl⟩)
  | delete =>
      dsimp only
      rw [deleteFile_tree]
      rcases hallowed : p.store.allowRemoval path with fault | e
      · exact .inl ⟨_, rfl, rfl⟩
      · exact .inr (.inr ⟨e, rfl, rfl⟩)

/-- What moving a file does to a tree, as an induction. -/
theorem moveFile_preserves {name : String} (hname : Path.IsName (Utf8.encode name))
    {motive : Tree → Prop} (leave : ∀ t, motive t → motive (t.without (s.source name)))
    (arrive : ∀ t e, e.isDir = false → motive t → motive (t.withEntry (s.target name) e))
    {t : Tree} (h : motive t) :
    motive (moveFile Tree.fileSystem (s.entryPath name) (s.archivePath name) t).2 := by
  rw [moveFile_tree, components_entryPath hname, components_archivePath hname]
  split
  · rename_i e hallowed
    exact arrive _ e (Tree.fileAt?_eq_some.mp (Tree.allowMove_eq_ok hallowed)).2 (leave t h)
  split
  · exact h
  · rename_i e hallowed
    have hcopied := arrive t e (Tree.fileAt?_eq_some.mp (Tree.allowMove_eq_ok hallowed)).2 h
    split
    · exact hcopied
    · exact leave _ hcopied

/-- **What handling a name does to a tree**, as an induction: the archive directory may be made, as long
as it has not been seen to; the name's file may leave the working directory; and a file may come under
the same name into the archive. Nothing else changes. -/
theorem handleName_preserves {name : String} (hname : Path.IsName (Utf8.encode name))
    {motive : Tree → Prop} (p : Pass Tree)
    (prepare : p.ready = false → s.createArchiveDir = true → motive p.store →
      motive (p.store.ensureDir s.archiveDir.components))
    (leave : ∀ t, motive t → motive (t.without (s.source name)))
    (arrive : ∀ t e, e.isDir = false → motive t → motive (t.withEntry (s.target name) e))
    (h : motive p.store) : motive (s.handleName name p).2.store := by
  rw [handleName]
  rcases s.handle_cases (s.entryPath name) (Utf8.encode name) p with
    ⟨_, hhandle, -⟩ | ⟨p', _, hhandle, hprepared, rfl⟩ | ⟨e, hhandle, -⟩
  · rw [hhandle]
    exact h
  -- the archive directory is seen to, then the file is moved
  · have hstore : motive p'.store := by
      rcases hprepared.store with hsame | ⟨hunsettled, hmade⟩
      · rw [hsame]
        exact h
      · obtain ⟨hready, hcreate⟩ := not_settled_iff.mp hunsettled
        rw [hmade]
        exact prepare hready hcreate h
    rw [hhandle]
    exact s.moveFile_preserves hname leave arrive hstore
  · have hleft := leave p.store h
    rw [← components_entryPath hname] at hleft
    rw [hhandle]
    exact hleft

/-! ## Handling all names of a listing -/

/-- Handle the entries that the working directory lists under some names. -/
def handleNames (names : List String) (p : Pass Tree) : List (String × Outcome) × Tree :=
  s.handleAll Tree.fileSystem (names.map s.entryPath) p

theorem handleNames_cons {name : String} (hname : Path.IsName (Utf8.encode name))
    (names : List String) (p : Pass Tree) :
    s.handleNames (name :: names) p =
      ((name, (s.handleName name p).1) :: (s.handleNames names (s.handleName name p).2).1,
        (s.handleNames names (s.handleName name p).2).2) := by
  unfold handleNames
  rw [List.map_cons, handleAll, entryPath, Path.fileName?_join _ hname]
  dsimp only
  rw [Utf8.lossy_encode]
  rfl

/-- The pass after some names have been handled. -/
def passAfter (names : List String) (p : Pass Tree) : Pass Tree :=
  names.foldl (fun p name => (s.handleName name p).2) p

/-- **What handling each of some names preserves**, handling them all preserves. -/
theorem passAfter_preserves {names : List String} {motive : Pass Tree → Prop}
    (step : ∀ name ∈ names, ∀ p, motive p → motive (s.handleName name p).2) {p : Pass Tree}
    (h : motive p) : motive (s.passAfter names p) := by
  induction names generalizing p with
  | nil => exact h
  | cons name names ih =>
      refine ih (fun other hother => step other (List.mem_cons_of_mem _ hother)) ?_
      exact step name List.mem_cons_self p h

theorem handleNames_append {front : List String}
    (hfront : ∀ name ∈ front, Path.IsName (Utf8.encode name)) (back : List String)
    (p : Pass Tree) :
    s.handleNames (front ++ back) p =
      ((s.handleNames front p).1 ++ (s.handleNames back (s.passAfter front p)).1,
        (s.handleNames back (s.passAfter front p)).2) := by
  induction front generalizing p with
  | nil => rfl
  | cons name front ih =>
      have hname := hfront name List.mem_cons_self
      rw [List.cons_append, handleNames_cons s hname, handleNames_cons s hname,
        ih fun other hother => hfront other (List.mem_cons_of_mem _ hother)]
      rfl

theorem handleNames_store {names : List String}
    (hnames : ∀ name ∈ names, Path.IsName (Utf8.encode name)) (p : Pass Tree) :
    (s.handleNames names p).2 = (s.passAfter names p).store := by
  have happend := s.handleNames_append hnames [] p
  rw [List.append_nil] at happend
  exact congrArg Prod.snd happend

/-- Every path with a name has one outcome, in order, whatever the store answers. -/
theorem names_handleAll {σ : Type} (fs : FileSystem σ) (paths : List Path) (p : Pass σ) :
    (s.handleAll fs paths p).1.map Prod.fst = paths.filterMap Path.shownName? := by
  induction paths generalizing p with
  | nil => rfl
  | cons path paths ih =>
      rw [handleAll, List.filterMap_cons, Path.shownName?]
      cases path.fileName? with
      | none => exact ih p
      | some name => exact congrArg _ (ih _)

/-- The paths of names show these names. -/
theorem shownNames_entryPath {names : List String}
    (hnames : ∀ name ∈ names, Path.IsName (Utf8.encode name)) :
    (names.map s.entryPath).filterMap Path.shownName? = names := by
  rw [List.filterMap_map, List.filterMap_congr (g := some), List.filterMap_some]
  exact fun name hmem => Path.shownName?_join _ (hnames name hmem)

/-- Every name handled has one outcome, in order. -/
theorem names_handleNames {names : List String} (hnames : ∀ name ∈ names, Path.IsName (Utf8.encode name))
    (p : Pass Tree) : (s.handleNames names p).1.map Prod.fst = names := by
  rw [handleNames, names_handleAll, shownNames_entryPath s hnames]

/-- **A name has its turn**: it is handled behind other names and before others, and no other outcome is
told under it. -/
theorem exists_turn {names : List String} (hnames : ∀ name ∈ names, Path.IsName (Utf8.encode name))
    (hnodup : names.Nodup) {name : String} (hmem : name ∈ names) (p : Pass Tree) :
    ∃ front back, name ∉ front ∧ name ∉ back ∧
      (∀ other ∈ front, Path.IsName (Utf8.encode other)) ∧
        (∀ other ∈ back, Path.IsName (Utf8.encode other)) ∧
          (∀ outcome, (name, outcome) ∈ (s.handleNames names p).1 ↔
              outcome = (s.handleName name (s.passAfter front p)).1) ∧
            (s.handleNames names p).2 =
              (s.passAfter back (s.handleName name (s.passAfter front p)).2).store := by
  obtain ⟨front, back, rfl⟩ := List.append_of_mem hmem
  have hfront : ∀ other ∈ front, Path.IsName (Utf8.encode other) :=
    fun other hother => hnames other (List.mem_append_left _ hother)
  have hback : ∀ other ∈ back, Path.IsName (Utf8.encode other) :=
    fun other hother => hnames other (List.mem_append_right _ (List.mem_cons_of_mem _ hother))
  obtain ⟨hnot_front, hnot_back⟩ : name ∉ front ∧ name ∉ back := by
    rw [List.nodup_append, List.nodup_cons] at hnodup
    exact ⟨fun h => hnodup.2.2 name h name List.mem_cons_self rfl, hnodup.2.1.1⟩
  -- the outcomes of other names are told under these
  have hother {others : List String} (hothers : ∀ other ∈ others, Path.IsName (Utf8.encode other))
      (hnot : name ∉ others) (q : Pass Tree) (outcome : Outcome) :
      (name, outcome) ∉ (s.handleNames others q).1 := by
    intro h
    have hname := List.mem_map_of_mem (f := Prod.fst) h
    rw [names_handleNames s hothers] at hname
    exact hnot hname
  refine ⟨front, back, hnot_front, hnot_back, hfront, hback, fun outcome => ?_, ?_⟩
  · rw [handleNames_append s hfront, handleNames_cons s (hnames name hmem), List.mem_append,
      List.mem_cons, Prod.mk.injEq]
    simp [hother hfront hnot_front, hother hback hnot_back]
  · rw [handleNames_append s hfront, handleNames_cons s (hnames name hmem)]
    exact handleNames_store s hback _

/-- To put the paths of a listing in order is to put their names in order. -/
theorem exists_order (children : List String) :
    ∃ names : List String, inOrder (children.map s.entryPath) = names.map s.entryPath ∧
      names.Perm children :=
  ⟨_, (List.map_mergeSort (r := fun a b => (s.entryPath a).precedes (s.entryPath b))
    fun _ _ _ _ => rfl).symm, List.mergeSort_perm children _⟩

/-- **A sweep of a tidy tree handles the listed names**, each once. -/
theorem exists_listing {t : Tree} (ht : t.Tidy) {paths : List Path}
    (h : t.readDir s.workingDir = .ok paths) :
    ∃ names : List String, inOrder paths = names.map s.entryPath ∧ names.Nodup ∧
      (∀ name, name ∈ names ↔ name ∈ t.list s.workingDir) ∧
        ∀ name ∈ names, Path.IsName (Utf8.encode name) := by
  obtain ⟨-, children, hdir, rfl⟩ := Tree.readDir_eq_ok_iff.mp h
  obtain ⟨hnodup, hnames⟩ := ht _ children hdir
  obtain ⟨names, hmap, hperm⟩ := s.exists_order children
  refine ⟨names, hmap, hperm.nodup_iff.mpr hnodup, fun name => ?_,
    fun name hmem => hnames name (hperm.mem_iff.mp hmem)⟩
  rw [hperm.mem_iff, Tree.mem_list]
  constructor
  · intro hmem
    exact ⟨children, hdir, hmem⟩
  · rintro ⟨children', hdir', hmem⟩
    obtain rfl := Entry.dir.inj (Option.some.inj (hdir.symm.trans hdir'))
    exact hmem

theorem sweep_tree (t : Tree) :
    s.sweep Tree.fileSystem t =
      match t.readDir s.workingDir with
      | .error fault => (.error fault, t)
      | .ok paths =>
          (.ok { entries := (s.handleAll Tree.fileSystem (inOrder paths) { store := t }).1 },
            (s.handleAll Tree.fileSystem (inOrder paths) { store := t }).2) := by
  unfold sweep
  rw [Tree.fileSystem_readDir]
  rcases t.readDir s.workingDir with fault | paths <;> rfl

/-- **A sweep handles the names that the working directory lists.** -/
theorem exists_names_of_sweep {t after : Tree} (ht : t.Tidy) {report : Report}
    (h : s.sweep Tree.fileSystem t = (.ok report, after)) :
    ∃ names : List String, names.Nodup ∧ (∀ name, name ∈ names ↔ name ∈ t.list s.workingDir) ∧
      (∀ name ∈ names, Path.IsName (Utf8.encode name)) ∧
        report.entries = (s.handleNames names { store := t }).1 ∧
          after = (s.handleNames names { store := t }).2 := by
  rw [sweep_tree] at h
  rcases hread : t.readDir s.workingDir with fault | paths <;> rw [hread] at h
  · cases h
  obtain ⟨names, hpaths, hnodup, hlisted, hnames⟩ := exists_listing s ht hread
  dsimp only at h
  rw [hpaths] at h
  obtain ⟨hreport, hafter⟩ := Prod.mk.inj h
  exact ⟨names, hnodup, hlisted, hnames, (congrArg Report.entries (Except.ok.inj hreport)).symm,
    hafter.symm⟩

end Sweeper

namespace Report

/-! ## The lists of a report -/

variable {r : Report} {name : String}

theorem mem_names {outcome : Outcome} : name ∈ r.names outcome ↔ (name, outcome) ∈ r.entries := by
  rw [names, List.mem_map]
  constructor
  · rintro ⟨⟨other, o⟩, hmem, rfl⟩
    obtain ⟨hmem, ho⟩ := List.mem_filter.mp hmem
    exact beq_iff_eq.mp ho ▸ hmem
  · intro h
    exact ⟨(name, outcome), List.mem_filter.mpr ⟨h, beq_self_eq_true _⟩, rfl⟩

theorem mem_failures {mishap : Mishap} :
    (name, mishap) ∈ r.failures ↔ (name, .failed mishap) ∈ r.entries := by
  rw [failures, List.mem_filterMap]
  constructor
  · rintro ⟨⟨other, o⟩, hmem, hsome⟩
    cases o <;> simp only [reduceCtorEq, Option.some.injEq, Prod.mk.injEq] at hsome
    obtain ⟨rfl, rfl⟩ := hsome
    exact hmem
  · intro h
    exact ⟨_, h, rfl⟩

end Report

end RunSweep
