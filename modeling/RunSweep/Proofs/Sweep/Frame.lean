import RunSweep.Proofs.Sweep.Directories
import RunSweep.Proofs.Sweep.Isolation

/-!
# What a sweep leaves alone

A sweep touches the files that the working directory lists, and the places in the archive that those of
them come to which are to be archived. It makes directories at most once, on the way to the archive, and
only for a file that is to be archived. Up to that point it can only have removed files, so what it finds
missing there was missing before, or was a file in the working directory that had to go.
-/

namespace RunSweep.Sweeper

variable {s : Sweeper} {t : Tree} {name : String} {place : Place}

/-- The working directory holds a file under a name, and its length says what is to be done with it. -/
def HasFile (s : Sweeper) (t : Tree) (disposition : Disposition) (name : String) : Prop :=
  ∃ contents len, t.fileAt? (s.source name) = some (.file contents len) ∧
    classify len s.threshold = disposition

/-- Whether there is such a file depends on its place only. -/
theorem HasFile.congr {u : Tree} {disposition : Disposition}
    (h : u.fileAt? (s.source name) = t.fileAt? (s.source name)) :
    s.HasFile u disposition name ↔ s.HasFile t disposition name := by
  unfold HasFile
  rw [h]

/-- A file in the working directory is one for which something is to be done. -/
theorem exists_hasFile {e : Entry} (h : t.fileAt? (s.source name) = some e) :
    ∃ disposition, s.HasFile t disposition name := by
  cases e with
  | file contents len => exact ⟨_, contents, len, h, rfl⟩
  | dir => cases (Tree.fileAt?_eq_some.mp h).2

/-- A file that is deleted was to be deleted. -/
theorem HasFile.of_deleted (hname : Path.IsName (Utf8.encode name))
    (hdirs : s.workingDir.components ≠ s.archiveDir.components) {p : Pass Tree} {e : Entry}
    (hfile : p.store.fileAt? (s.source name) = some e)
    (h : (s.handleName name p).1 = .deleted) : s.HasFile p.store .delete name := by
  cases e with
  | dir => cases (Tree.fileAt?_eq_some.mp hfile).2
  | file contents len =>
      have hfate := fate_handleName hname hdirs hfile
      rw [h] at hfate
      generalize hclass : classify len s.threshold = disposition at hfate
      cases hfate
      exact ⟨contents, len, hfile, hclass⟩

/-! ## Files -/

/-- **Handling a name** leaves alone what is neither its file nor, if that is to be archived, what the
archive holds under the name. -/
theorem fileAt?_handleName_of_untouched (hname : Path.IsName (Utf8.encode name))
    (hdirs : s.workingDir.components ≠ s.archiveDir.components) {p : Pass Tree}
    (hsource : ∀ disposition, s.HasFile p.store disposition name → place ≠ s.source name)
    (htarget : s.HasFile p.store .archive name → place ≠ s.target name) :
    (s.handleName name p).2.store.fileAt? place = p.store.fileAt? place := by
  cases hfile : p.store.fileAt? (s.source name) with
  | none => rw [handleName_of_no_file hname hfile]
  | some e =>
      obtain ⟨disposition, hhas⟩ := exists_hasFile hfile
      have hne := hsource disposition hhas
      by_cases heq : place = s.target name
      -- the file is to be deleted, and the archive is not touched
      · obtain ⟨contents, len, hfile', hclass⟩ := hhas
        have hfate := fate_handleName hname hdirs hfile'
        rw [hclass] at hfate
        subst heq
        generalize (s.handleName name p).1 = outcome at hfate
        cases hfate with
        | archived => exact absurd rfl (htarget ⟨contents, len, hfile', hclass⟩)
        | deleted _ h => exact h
        | kept _ _ _ h => exact h
        | copied => exact absurd rfl (htarget ⟨contents, len, hfile', hclass⟩)
      · exact fileAt?_handleName hname p hne heq

/-- **Handling some names** leaves alone all other places. -/
theorem fileAt?_passAfter_of_untouched
    (hdirs : s.workingDir.components ≠ s.archiveDir.components) {names : List String}
    (hnames : ∀ name ∈ names, Path.IsName (Utf8.encode name)) (hnodup : names.Nodup) {p : Pass Tree}
    (hsource : ∀ name ∈ names, ∀ disposition, s.HasFile p.store disposition name →
      place ≠ s.source name)
    (htarget : ∀ name ∈ names, s.HasFile p.store .archive name → place ≠ s.target name) :
    (s.passAfter names p).store.fileAt? place = p.store.fileAt? place := by
  induction names generalizing p with
  | nil => rfl
  | cons name names ih =>
      obtain ⟨hnot, hnodup⟩ := List.nodup_cons.mp hnodup
      have hname := hnames name List.mem_cons_self
      -- the files under the other names are not touched by this one
      have hother {other : String} (hmem : other ∈ names) (disposition : Disposition) :
          s.HasFile (s.handleName name p).2.store disposition other ↔
            s.HasFile p.store disposition other := by
        have hne : other ≠ name := fun heq => hnot (heq ▸ hmem)
        exact HasFile.congr (fileAt?_handleName hname p (fun heq => hne (source_injective heq))
          (source_ne_target hdirs))
      have hfirst := fileAt?_handleName_of_untouched hname hdirs (hsource name List.mem_cons_self)
        (htarget name List.mem_cons_self)
      refine (ih (fun other hmem => hnames other (List.mem_cons_of_mem _ hmem)) hnodup
        (fun other hmem disposition h => ?_) fun other hmem h => ?_).trans hfirst
      · exact hsource other (List.mem_cons_of_mem _ hmem) disposition ((hother hmem _).mp h)
      · exact htarget other (List.mem_cons_of_mem _ hmem) ((hother hmem _).mp h)

/-! ## Directories -/

/-- **A directory is made on the way to the archive**, which is missing when a file is to be archived. -/
theorem exists_reason_of_new_dir {p : Pass Tree} (hno : p.store.kindAt? place ≠ some true)
    (hdir : (s.handleName name p).2.store.kindAt? place = some true) :
    ¬s.Settled p ∧ p.store.isDir s.archiveDir = false ∧ p.store.find? place = none ∧
      place ∈ s.archiveDir.components :: Place.above s.archiveDir.components ∧
        ∃ len, p.store.metadata (s.entryPath name) = .ok ⟨len, false⟩ ∧
          classify len s.threshold = .archive := by
  rw [handleName, handle_tree] at hdir
  rcases hmeta : p.store.metadata (s.entryPath name) with fault | ⟨len, _ | _⟩ <;>
    rw [hmeta] at hdir
  · exact absurd hdir hno
  · dsimp only at hdir
    rw [if_neg Bool.false_ne_true] at hdir
    cases hclass : classify len s.threshold with
    | delete =>
        rw [hclass] at hdir
        dsimp only at hdir
        rw [deleteFile_tree] at hdir
        split at hdir
        · exact absurd hdir (Tree.no_dir_without hno)
        · exact absurd hdir hno
    | archive =>
        rw [hclass] at hdir
        dsimp only at hdir
        rw [archiveFile, ensureArchive_tree] at hdir
        split_ifs at hdir with hsettled hthere
        -- nothing is left to be made
        · exact absurd hdir (no_dir_moveFile hno)
        · exact absurd hdir (no_dir_moveFile hno)
        · rcases hallowed : p.store.allowDir s.archiveDir with fault | _ <;>
            rw [hallowed] at hdir
          · exact absurd hdir hno
          · have hmade : (p.store.ensureDir s.archiveDir.components).kindAt? place = some true := by
              by_contra hnone
              exact no_dir_moveFile hnone hdir
            obtain ⟨hmissing, habove⟩ := (Tree.kindAt?_ensureDir_eq_true hmade).resolve_left hno
            exact ⟨hsettled, Bool.eq_false_iff.mpr hthere, hmissing, habove, len, rfl, hclass⟩
  · exact absurd hdir hno

/-- A directory that is made has its turn. -/
theorem exists_turn_of_new_dir {names : List String} {p : Pass Tree}
    (hno : p.store.kindAt? place ≠ some true)
    (hdir : (s.passAfter names p).store.kindAt? place = some true) :
    ∃ front name back, names = front ++ name :: back ∧
      (s.passAfter front p).store.kindAt? place ≠ some true ∧
        (s.handleName name (s.passAfter front p)).2.store.kindAt? place = some true := by
  induction names generalizing p with
  | nil => exact absurd hdir hno
  | cons name names ih =>
      by_cases hfirst : (s.handleName name p).2.store.kindAt? place = some true
      · exact ⟨[], name, names, rfl, hno, hfirst⟩
      · obtain ⟨front, other, back, rfl, hbefore, hafter⟩ := ih hfirst hdir
        exact ⟨name :: front, other, back, rfl, hbefore, hafter⟩

/-- **Until the archive directory has been seen to**, files that are to be deleted go from the working
directory, and everything else is as it was. -/
theorem settled_or_same_passAfter (hdirs : s.workingDir.components ≠ s.archiveDir.components)
    {names : List String} (hnames : ∀ name ∈ names, Path.IsName (Utf8.encode name)) (p : Pass Tree) :
    s.Settled (s.passAfter names p) ∨ ∀ place,
      ((s.passAfter names p).store.kindAt? place = p.store.kindAt? place ∧
        (s.passAfter names p).store.fileAt? place = p.store.fileAt? place) ∨
      ∃ name ∈ names, s.HasFile p.store .delete name ∧ place = s.source name := by
  refine s.passAfter_preserves (motive := fun q => s.Settled q ∨ ∀ place,
    (q.store.kindAt? place = p.store.kindAt? place ∧
      q.store.fileAt? place = p.store.fileAt? place) ∨
    ∃ name ∈ names, s.HasFile p.store .delete name ∧ place = s.source name) ?_
    (.inr fun _ => .inl ⟨rfl, rfl⟩)
  rintro name hmem q (hsettled | hsame)
  · exact .inl (settled_handle (.inl hsettled))
  have hname := hnames name hmem
  have hresult : (s.handleName name q) = s.handle Tree.fileSystem (s.entryPath name)
    (Utf8.encode name) q := rfl
  rcases s.handle_cases (s.entryPath name) (Utf8.encode name) q with
    ⟨outcome, hhandle, -⟩ | ⟨p', _, hhandle, hprepared, rfl⟩ | ⟨e, hhandle, hallowed⟩
  · rw [hresult, hhandle]
    exact .inr hsame
  · rw [hresult, hhandle]
    exact .inl hprepared.settled
  -- the file that goes is the one that was there at the beginning
  · have hfile := Tree.allowRemoval_eq_ok hallowed
    rw [components_entryPath hname] at hfile hhandle
    have hhas : ∃ other ∈ names, s.HasFile p.store .delete other ∧ s.source name = s.source other := by
      rcases hsame (s.source name) with ⟨-, hsame⟩ | hgone
      · have hdeleted := HasFile.of_deleted hname hdirs hfile (by rw [hresult, hhandle])
        exact ⟨name, hmem, (HasFile.congr hsame).mp hdeleted, rfl⟩
      · exact hgone
    refine .inr fun place => ?_
    by_cases heq : place = s.source name
    · exact .inr (heq ▸ hhas)
    · refine (hsame place).imp_left fun ⟨hkind, hsame⟩ => ?_
      rw [hresult, hhandle]
      constructor
      · rw [Tree.kindAt?_without_of_ne _ heq, hkind]
      · rw [Tree.fileAt?_without, if_neg heq, hsame]

/-! ## The whole sweep -/

/-- What is told of a file before others are handled is what was told of it when its turn came. -/
theorem metadata_of_passAfter (hdirs : s.workingDir.components ≠ s.archiveDir.components)
    {others : List String} (hothers : ∀ other ∈ others, Path.IsName (Utf8.encode other))
    (hname : Path.IsName (Utf8.encode name)) (hnot : name ∉ others) {p : Pass Tree} {len : UInt64}
    (h : (s.passAfter others p).store.metadata (s.entryPath name) = .ok ⟨len, false⟩) :
    (∃ contents, p.store.fileAt? (s.source name) = some (.file contents len)) ∧
      p.store.metadata (s.entryPath name) = .ok ⟨len, false⟩ := by
  obtain ⟨contents, hfile⟩ := Tree.exists_file_of_metadata h
  rw [components_entryPath hname] at hfile
  have hfile' := ((fileAt?_passAfter hdirs hothers hnot p).1).symm.trans hfile
  have hfailing : (s.passAfter others p).store.failing = p.store.failing :=
    s.passAfter_preserves (motive := fun q => q.store.failing = p.store.failing)
      (fun other hother q hq => (failing_handleName (hothers other hother) q).trans hq) rfl
  refine ⟨⟨contents, hfile'⟩, ?_⟩
  rw [← h]
  refine metadata_congr hname ?_ ?_
  · rw [Tree.refuses, Tree.refuses, hfailing]
  · rw [(Tree.fileAt?_eq_some.mp hfile').1, (Tree.fileAt?_eq_some.mp hfile).1]

/-- **What becomes a directory while names are handled**, and when. -/
theorem cases_of_new_dir (hdirs : s.workingDir.components ≠ s.archiveDir.components) {t : Tree}
    {names : List String} (hnames : ∀ name ∈ names, Path.IsName (Utf8.encode name))
    (hnodup : names.Nodup) {place : Place} (hno : t.kindAt? place ≠ some true)
    (hdir : (s.passAfter names { store := t }).store.kindAt? place = some true) :
    place ∈ s.archiveDir.components :: Place.above s.archiveDir.components ∧
      (t.find? place = none ∨ ∃ name ∈ names, s.HasFile t .delete name ∧ place = s.source name) ∧
      s.createArchiveDir = true ∧ t.isDir s.archiveDir = false ∧
      ∃ name ∈ names, s.HasFile t .archive name ∧
        ∃ len, t.metadata (s.entryPath name) = .ok ⟨len, false⟩ := by
  -- the name in whose turn the directory is made
  obtain ⟨front, name, back, rfl, hbefore, hmade⟩ :=
    exists_turn_of_new_dir (p := { store := t }) hno hdir
  have hfront : ∀ other ∈ front, Path.IsName (Utf8.encode other) :=
    fun other hother => hnames other (List.mem_append_left _ hother)
  have hmem : name ∈ front ++ name :: back := List.mem_append_right _ List.mem_cons_self
  have hnot : name ∉ front := by
    intro hmem
    exact (List.nodup_append.mp hnodup).2.2 name hmem name List.mem_cons_self rfl
  obtain ⟨hunsettled, hnodir, hmissing, habove, len, hmeta, hclass⟩ :=
    exists_reason_of_new_dir hbefore hmade
  obtain ⟨⟨contents, hfile⟩, hmeta⟩ :=
    metadata_of_passAfter hdirs hfront (hnames name hmem) hnot hmeta
  obtain ⟨-, hcreate⟩ := not_settled_iff.mp hunsettled
  -- up to this turn nothing but files has gone
  have hsame := (settled_or_same_passAfter hdirs hfront { store := t }).resolve_left hunsettled
  refine ⟨habove, ?_, hcreate, ?_, name, hmem, ⟨contents, len, hfile, hclass⟩, len, hmeta⟩
  · rcases hsame place with ⟨hkind, -⟩ | ⟨other, hother, hdelete, hplace⟩
    · left
      rw [Tree.kindAt?, hmissing] at hkind
      exact Option.map_eq_none_iff.mp hkind.symm
    · exact .inr ⟨other, List.mem_append_left _ hother, hdelete, hplace⟩
  · rw [← Bool.not_eq_true, Tree.isDir_iff]
    rw [← Bool.not_eq_true, Tree.isDir_iff] at hnodir
    rcases hsame s.archiveDir.components with ⟨hkind, -⟩ | ⟨other, -, ⟨_, _, hfile, -⟩, hplace⟩
    · rwa [← hkind]
    · rw [hplace, Tree.kindAt?_of_fileAt? hfile]
      decide

/-- **What a sweep leaves alone.** Take a tree that edits lead to, with whatever operations are to fail,
and sweep it with a working and an archive directory that differ. A place holds the file that it held, or
none as before, unless it is that of a listed file, or the one that a listed file comes to in the archive
if it is to be archived. What becomes a directory is the archive directory or lies above it, and was
missing, or was a listed file that had to be deleted; and this happens only if the archive directory is to
be made and was none, and the length of a listed file could be told and says that it is to be archived. A
sweep that fails changes nothing. -/
theorem sweep_frame {t after : Tree} (ht : t.Reachable)
    (hdirs : s.workingDir.components ≠ s.archiveDir.components) {result : Except Fault Report}
    (h : s.sweep Tree.fileSystem t = (result, after)) :
    (∀ place, (∀ name ∈ t.list s.workingDir, ∀ disposition, s.HasFile t disposition name →
        place ≠ s.source name) →
      (∀ name ∈ t.list s.workingDir, s.HasFile t .archive name → place ≠ s.target name) →
      after.fileAt? place = t.fileAt? place) ∧
    (∀ place, t.kindAt? place ≠ some true → after.kindAt? place = some true →
      place ∈ s.archiveDir.components :: Place.above s.archiveDir.components ∧
      (t.find? place = none ∨
        ∃ name ∈ t.list s.workingDir, s.HasFile t .delete name ∧ place = s.source name) ∧
      s.createArchiveDir = true ∧ t.isDir s.archiveDir = false ∧
      ∃ name ∈ t.list s.workingDir, s.HasFile t .archive name ∧
        ∃ len, t.metadata (s.entryPath name) = .ok ⟨len, false⟩) ∧
    (∀ fault, result = .error fault → after = t) := by
  rcases result with fault | report
  -- nothing is listed, so nothing happens
  · have hsame : after = t := by
      rw [sweep_tree] at h
      rcases hread : t.readDir s.workingDir with fault | paths <;> rw [hread] at h
      · exact (Prod.mk.inj h).2.symm
      · cases h
    rw [hsame]
    exact ⟨fun _ _ _ => rfl, fun place hno hdir => absurd hdir hno, fun _ _ => rfl⟩
  obtain ⟨names, hnodup, hlist, hnames, -, hafter⟩ := exists_names_of_sweep s ht.tidy h
  rw [handleNames_store s hnames] at hafter
  subst hafter
  refine ⟨fun place hsource htarget => ?_, fun place hno hdir => ?_, nofun⟩
  · refine fileAt?_passAfter_of_untouched hdirs hnames hnodup (fun name hmem => ?_) fun name hmem => ?_
    · exact hsource name ((hlist name).mp hmem)
    · exact htarget name ((hlist name).mp hmem)
  · obtain ⟨habove, hbefore, hcreate, hnodir, hreason⟩ := cases_of_new_dir hdirs hnames hnodup hno hdir
    simp only [hlist] at hbefore hreason
    exact ⟨habove, hbefore, hcreate, hnodir, hreason⟩

/-- A working directory with a large file, no archive directory, and a file beside them. -/
def bystanderTree : Tree :=
  (Tree.empty.addSizedFile (.ofText "/run/a.dat") 200000000).addFile (.ofText "/store.txt") [1, 2]

theorem bystanderTree_reachable : bystanderTree.Reachable :=
  (Tree.Reachable.empty.edit (.addSizedFile (.ofText "/run/a.dat") 200000000)
    (by rintro _ ⟨⟩; exact ⟨_, rfl⟩)).edit (.addFile (.ofText "/store.txt") [1, 2])
    (by rintro _ ⟨⟩; exact ⟨_, rfl⟩)

/-- The file beside the two directories is kept, and only the archive directory and the root may become
directories. -/
theorem sweep_keeps_bystander :
    ∃ result after, hundredMegabytes.sweep Tree.fileSystem bystanderTree = (result, after) ∧
      after.fileAt? (Path.ofText "/store.txt").components = some (.file [1, 2] 2) ∧
      ∀ place, bystanderTree.kindAt? place ≠ some true → after.kindAt? place = some true →
        place ∈ [(Path.ofText "/store").components, (Path.ofText "/").components] := by
  obtain ⟨hfiles, hdirs, -⟩ := sweep_frame bystanderTree_reachable hundredMegabytes_dirs
    (s := hundredMegabytes) (t := bystanderTree) rfl
  refine ⟨_, _, rfl, ?_, fun place hno hdir => ?_⟩
  · have hfile : bystanderTree.fileAt? (Path.ofText "/store.txt").components =
        some (.file [1, 2] 2) := by
      decide +kernel
    have hshort : (Path.ofText "/store.txt").components.length = 2 ∧
        hundredMegabytes.workingDir.components.length = 2 ∧
          hundredMegabytes.archiveDir.components.length = 2 := by
      decide +kernel
    rw [← hfile]
    -- it lies in neither directory
    apply hfiles
    · intro name _ _ _ heq
      have hlength := congrArg List.length heq
      rw [source, List.length_append, List.length_singleton] at hlength
      omega
    · intro name _ _ heq
      have hlength := congrArg List.length heq
      rw [target, List.length_append, List.length_singleton] at hlength
      omega
  · obtain ⟨habove, -⟩ := hdirs place hno hdir
    have hplaces : hundredMegabytes.archiveDir.components ::
        Place.above hundredMegabytes.archiveDir.components =
          [(Path.ofText "/store").components, (Path.ofText "/").components] := by
      decide +kernel
    rwa [hplaces] at habove

end RunSweep.Sweeper
