import RunSweep.Proofs.Sweep.Steps

/-!
# A sweep loses no file

A file that is to be archived has four things that can become of it, and one that is to be deleted has
two: `Fate` lists them by the outcome the report tells. Handling the file seals its fate, and no name
that is handled before or after it touches either of its two places, since names are told apart by both
directories.
-/

namespace RunSweep.Sweeper

/-- The step that carries out a disposition. -/
def actionOf : Disposition → FileAction
  | .archive => .archive
  | .delete => .delete

/-- **What becomes of a file** that is to be archived or deleted, by the outcome that is told of it. -/
inductive Fate (s : Sweeper) (name : String) (e : Entry) (before after : Tree) :
    Disposition → Outcome → Prop where
  | archived : after.fileAt? (s.source name) = none → after.fileAt? (s.target name) = some e →
      Fate s name e before after .archive .archived
  | deleted : after.fileAt? (s.source name) = none →
      after.fileAt? (s.target name) = before.fileAt? (s.target name) →
      Fate s name e before after .delete .deleted
  /-- Nothing happened to it. -/
  | kept {disposition : Disposition} {mishap : Mishap} :
      mishap.action = .stat ∨ mishap.action = actionOf disposition →
      (∀ fault, mishap ≠ .leftBehind fault) →
      after.fileAt? (s.source name) = some e →
      after.fileAt? (s.target name) = before.fileAt? (s.target name) →
      Fate s name e before after disposition (.failed mishap)
  /-- It is in both places. -/
  | copied {fault : Fault} :
      after.fileAt? (s.source name) = some e → after.fileAt? (s.target name) = some e →
      Fate s name e before after .archive (.failed (.leftBehind fault))

variable {s : Sweeper} {name : String} {e : Entry}

/-- A fate depends on the two places of the file only. -/
theorem Fate.congr {before before' after after' : Tree} {disposition : Disposition}
    {outcome : Outcome} (h : Fate s name e before after disposition outcome)
    (hbefore : before'.fileAt? (s.target name) = before.fileAt? (s.target name))
    (hsource : after'.fileAt? (s.source name) = after.fileAt? (s.source name))
    (htarget : after'.fileAt? (s.target name) = after.fileAt? (s.target name)) :
    Fate s name e before' after' disposition outcome := by
  cases h with
  | archived h₁ h₂ => exact .archived (hsource.trans h₁) (htarget.trans h₂)
  | deleted h₁ h₂ => exact .deleted (hsource.trans h₁) ((htarget.trans h₂).trans hbefore.symm)
  | kept haction hmishap h₁ h₂ =>
      exact .kept haction hmishap (hsource.trans h₁) ((htarget.trans h₂).trans hbefore.symm)
  | copied h₁ h₂ => exact .copied (hsource.trans h₁) (htarget.trans h₂)

/-- A fate, the file and what the archive held before say where the file is afterwards. -/
theorem Fate.files_eq {before before' after after' : Tree} {disposition : Disposition}
    {outcome : Outcome} (h : Fate s name e before after disposition outcome)
    (h' : Fate s name e before' after' disposition outcome)
    (hbefore : before.fileAt? (s.target name) = before'.fileAt? (s.target name)) :
    after.fileAt? (s.source name) = after'.fileAt? (s.source name) ∧
      after.fileAt? (s.target name) = after'.fileAt? (s.target name) := by
  cases h with
  | archived h₁ h₂ =>
      cases h' with
      | archived h₁' h₂' => exact ⟨h₁.trans h₁'.symm, h₂.trans h₂'.symm⟩
  | deleted h₁ h₂ =>
      cases h' with
      | deleted h₁' h₂' => exact ⟨h₁.trans h₁'.symm, h₂.trans (hbefore.trans h₂'.symm)⟩
  | kept _ hmishap h₁ h₂ =>
      cases h' with
      | kept _ _ h₁' h₂' => exact ⟨h₁.trans h₁'.symm, h₂.trans (hbefore.trans h₂'.symm)⟩
      | copied => exact absurd rfl (hmishap _)
  | copied h₁ h₂ =>
      cases h' with
      | kept _ hmishap => exact absurd rfl (hmishap _)
      | copied h₁' h₂' => exact ⟨h₁.trans h₁'.symm, h₂.trans h₂'.symm⟩

/-- Moving a file. -/
theorem fate_moveFile (hname : Path.IsName (Utf8.encode name))
    (hdirs : s.workingDir.components ≠ s.archiveDir.components) {t : Tree}
    (hfile : t.fileAt? (s.source name) = some e) :
    Fate s name e t (moveFile Tree.fileSystem (s.entryPath name) (s.archivePath name) t).2 .archive
      (moveFile Tree.fileSystem (s.entryPath name) (s.archivePath name) t).1 := by
  have hne : s.source name ≠ s.target name := source_ne_target hdirs
  have he : e.isDir = false := (Tree.fileAt?_eq_some.mp hfile).2
  -- what is let through is the file that was found
  have hsame {operation : Operation} {e' : Entry}
      (h : t.allowMove operation (s.entryPath name) (s.archivePath name) = .ok e') : e' = e := by
    have h' := Tree.allowMove_eq_ok h
    rw [components_entryPath hname, hfile] at h'
    exact (Option.some.inj h').symm
  rw [moveFile_tree, components_entryPath hname, components_archivePath hname]
  split
  -- renamed
  · rename_i e' hrename
    obtain rfl := hsame hrename
    refine .archived ?_ ?_
    · rw [Tree.fileAt?_withEntry _ _ _ he, if_neg hne, Tree.fileAt?_without, if_pos rfl]
    · rw [Tree.fileAt?_withEntry _ _ _ he, if_pos rfl]
  · split
    -- neither renamed nor copied
    · exact .kept (.inr rfl) (by rintro fault ⟨⟩) hfile rfl
    · rename_i e' hcopy
      obtain rfl := hsame hcopy
      split
      -- copied, but not removed
      · refine .copied ?_ ?_
        · rw [Tree.fileAt?_withEntry _ _ _ he, if_neg hne, hfile]
        · rw [Tree.fileAt?_withEntry _ _ _ he, if_pos rfl]
      -- copied and removed
      · refine .archived ?_ ?_
        · rw [Tree.fileAt?_without, if_pos rfl]
        · rw [Tree.fileAt?_without, if_neg hne.symm, Tree.fileAt?_withEntry _ _ _ he, if_pos rfl]

/-- Seeing to the archive directory touches no file. -/
theorem fileAt?_ensureArchive (p : Pass Tree) (place : Place) :
    (s.ensureArchive Tree.fileSystem p).2.store.fileAt? place = p.store.fileAt? place := by
  rw [ensureArchive_tree]
  split_ifs
  · rfl
  · rfl
  · rcases p.store.allowDir s.archiveDir with fault | _
    · rfl
    · exact Tree.fileAt?_ensureDir _ _ _

/-- Handling a file seals its fate. -/
theorem fate_handleName (hname : Path.IsName (Utf8.encode name))
    (hdirs : s.workingDir.components ≠ s.archiveDir.components) {p : Pass Tree} {contents : Bytes}
    {len : UInt64} (hfile : p.store.fileAt? (s.source name) = some (.file contents len)) :
    Fate s name (.file contents len) p.store (s.handleName name p).2.store
      (classify len s.threshold) (s.handleName name p).1 := by
  have htold := Tree.metadata_file (s.entryPath name) ((components_entryPath hname).symm ▸ hfile)
  rw [handleName, handle_tree]
  rcases htold with ⟨fault, hmeta⟩ | hmeta
  -- nothing is known of it, so nothing is done
  · rw [hmeta]
    exact .kept (.inl rfl) (by rintro fault ⟨⟩) hfile rfl
  rw [hmeta]
  dsimp only
  rw [if_neg Bool.false_ne_true]
  cases hclass : classify len s.threshold with
  | archive =>
      dsimp only
      have hfiles := fileAt?_ensureArchive (s := s) p
      rw [archiveFile]
      rcases hensure : s.ensureArchive Tree.fileSystem p with ⟨fault | _, p'⟩
      · rw [hensure] at hfiles
        exact .kept (.inr rfl) (by rintro fault ⟨⟩) ((hfiles _).trans hfile) (hfiles _)
      · rw [hensure] at hfiles
        have hmoved := fate_moveFile hname hdirs ((hfiles _).trans hfile)
        exact hmoved.congr (hfiles _).symm rfl rfl
  | delete =>
      dsimp only
      rw [deleteFile_tree, components_entryPath hname]
      rcases p.store.allowRemoval (s.entryPath name) with fault | _
      · exact .kept (.inr rfl) (by rintro fault ⟨⟩) hfile rfl
      · refine .deleted ?_ ?_
        · rw [Tree.fileAt?_without, if_pos rfl]
        · rw [Tree.fileAt?_without, if_neg (source_ne_target hdirs).symm]

/-! ## The whole sweep -/

/-- Handling a name touches no files but its own two. -/
theorem fileAt?_handleName (hname : Path.IsName (Utf8.encode name)) (p : Pass Tree) {place : Place}
    (hsource : place ≠ s.source name) (htarget : place ≠ s.target name) :
    (s.handleName name p).2.store.fileAt? place = p.store.fileAt? place := by
  refine handleName_preserves s hname (motive := fun t => t.fileAt? place = p.store.fileAt? place)
    p (fun _ _ _ => Tree.fileAt?_ensureDir _ _ _) (fun t ht => ?_) (fun t e he ht => ?_) rfl
  · rw [Tree.fileAt?_without, if_neg hsource, ht]
  · rw [Tree.fileAt?_withEntry _ _ _ he, if_neg htarget, ht]

/-- The places of a name are not those of other names. -/
theorem places_ne (hdirs : s.workingDir.components ≠ s.archiveDir.components)
    {names : List String} (h : name ∉ names) :
    ∀ other ∈ names, (s.source name ≠ s.source other ∧ s.source name ≠ s.target other) ∧
      (s.target name ≠ s.source other ∧ s.target name ≠ s.target other) := by
  intro other hother
  have hne : name ≠ other := fun heq => h (heq ▸ hother)
  exact ⟨⟨fun heq => hne (source_injective heq), source_ne_target hdirs⟩,
    (source_ne_target hdirs).symm, fun heq => hne (target_injective heq)⟩

/-- Handling other names leaves the two places of a name alone. -/
theorem fileAt?_passAfter (hdirs : s.workingDir.components ≠ s.archiveDir.components)
    {others : List String} (hothers : ∀ other ∈ others, Path.IsName (Utf8.encode other))
    (hnot : name ∉ others) (p : Pass Tree) :
    (s.passAfter others p).store.fileAt? (s.source name) = p.store.fileAt? (s.source name) ∧
      (s.passAfter others p).store.fileAt? (s.target name) = p.store.fileAt? (s.target name) := by
  refine s.passAfter_preserves (motive := fun q =>
    q.store.fileAt? (s.source name) = p.store.fileAt? (s.source name) ∧
      q.store.fileAt? (s.target name) = p.store.fileAt? (s.target name)) ?_ ⟨rfl, rfl⟩
  intro other hother q hq
  obtain ⟨hsource, htarget⟩ := places_ne hdirs hnot other hother
  have hname := hothers other hother
  constructor
  · rw [fileAt?_handleName hname q hsource.1 hsource.2, hq.1]
  · rw [fileAt?_handleName hname q htarget.1 htarget.2, hq.2]

/-- Among the names handled, a file has an outcome, which tells its fate. -/
theorem fate_handleNames (hdirs : s.workingDir.components ≠ s.archiveDir.components)
    {names : List String} (hnames : ∀ name ∈ names, Path.IsName (Utf8.encode name))
    (hnodup : names.Nodup) (hmem : name ∈ names) {p : Pass Tree} {contents : Bytes} {len : UInt64}
    (hfile : p.store.fileAt? (s.source name) = some (.file contents len)) :
    ∃ outcome, (name, outcome) ∈ (s.handleNames names p).1 ∧
      Fate s name (.file contents len) p.store (s.handleNames names p).2
        (classify len s.threshold) outcome := by
  obtain ⟨front, back, hnot_front, hnot_back, hfront, hback, houtcome, hstore⟩ :=
    s.exists_turn hnames hnodup hmem p
  -- neither the names before it nor those after it touch its places
  obtain ⟨hsource, htarget⟩ := fileAt?_passAfter hdirs hfront hnot_front p
  obtain ⟨hsource', htarget'⟩ := fileAt?_passAfter hdirs hback hnot_back
    (s.handleName name (s.passAfter front p)).2
  have hfate := fate_handleName (hnames name hmem) hdirs (hsource.trans hfile)
  refine ⟨_, (houtcome _).mpr rfl, ?_⟩
  rw [hstore]
  exact hfate.congr htarget.symm hsource' htarget'

/-- **No file is lost, and the report tells the truth.** Take a tree that edits lead to, with whatever
operations are to fail, and sweep it with a working and an archive directory that differ. Every listed
name is told of once. A listed file that is to be archived is in the archive as it was and gone from the
working directory, or it is among the failures and still where it was; then the archive holds the file
that it held under that name, or a copy. A listed file that is to be deleted is gone, or is among the
failures and still there, and the archive is not touched. -/
theorem sweep_keeps_files {t after : Tree} (ht : t.Reachable)
    (hdirs : s.workingDir.components ≠ s.archiveDir.components) {report : Report}
    (h : s.sweep Tree.fileSystem t = (.ok report, after))
    (hlisted : name ∈ t.list s.workingDir) {contents : Bytes} {len : UInt64}
    (hfile : t.find? (s.source name) = some (.file contents len)) :
    (report.entries.map Prod.fst).count name = 1 ∧
    (classify len s.threshold = .archive →
      (name ∈ report.archived ∧ after.fileAt? (s.source name) = none ∧
          after.find? (s.target name) = some (.file contents len)) ∨
        ∃ mishap, (name, mishap) ∈ report.failures ∧
          (mishap.action = .stat ∨ mishap.action = .archive) ∧
          after.find? (s.source name) = some (.file contents len) ∧
          (after.fileAt? (s.target name) = t.fileAt? (s.target name) ∨
            mishap.action = .archive ∧
              after.find? (s.target name) = some (.file contents len))) ∧
    (classify len s.threshold = .delete →
      ((name ∈ report.deleted ∧ after.fileAt? (s.source name) = none) ∨
        ∃ mishap, (name, mishap) ∈ report.failures ∧
          (mishap.action = .stat ∨ mishap.action = .delete) ∧
          after.find? (s.source name) = some (.file contents len)) ∧
      after.fileAt? (s.target name) = t.fileAt? (s.target name)) := by
  obtain ⟨names, hnodup, hlist, hnames, hentries, rfl⟩ := exists_names_of_sweep s ht.tidy h
  have hmem : name ∈ names := (hlist name).mpr hlisted
  obtain ⟨outcome, hentry, hfate⟩ := fate_handleNames hdirs hnames hnodup hmem
    (p := { store := t }) (Tree.fileAt?_eq_some.mpr ⟨hfile, rfl⟩)
  rw [← hentries] at hentry
  refine ⟨?_, fun hclass => ?_, fun hclass => ?_⟩
  · rw [hentries, names_handleNames s hnames]
    exact List.count_eq_one_of_mem hnodup hmem
  · rw [hclass] at hfate
    cases hfate with
    | archived hsource htarget =>
        exact .inl ⟨Report.mem_names.mpr hentry, hsource, (Tree.fileAt?_eq_some.mp htarget).1⟩
    | kept haction _ hsource htarget =>
        exact .inr ⟨_, Report.mem_failures.mpr hentry, haction, (Tree.fileAt?_eq_some.mp hsource).1,
          .inl htarget⟩
    | copied hsource htarget =>
        exact .inr ⟨_, Report.mem_failures.mpr hentry, .inr rfl,
          (Tree.fileAt?_eq_some.mp hsource).1, .inr ⟨rfl, (Tree.fileAt?_eq_some.mp htarget).1⟩⟩
  · rw [hclass] at hfate
    cases hfate with
    | deleted hsource htarget =>
        exact ⟨.inl ⟨Report.mem_names.mpr hentry, hsource⟩, htarget⟩
    | kept haction _ hsource htarget =>
        exact ⟨.inr ⟨_, Report.mem_failures.mpr hentry, haction, (Tree.fileAt?_eq_some.mp hsource).1⟩,
          htarget⟩

/-- A working directory whose large file can be neither renamed nor removed. -/
def stuckTree : Tree :=
  ((Tree.empty.addSizedFile (.ofText "/run/a.dat") 200000000).fail .rename
    (.ofText "/run/a.dat")).fail .removeFile (.ofText "/run/a.dat")

/-- A sweeper that archives what is larger than a hundred megabytes. -/
def hundredMegabytes : Sweeper :=
  { workingDir := .ofText "/run", archiveDir := .ofText "/store", threshold := 100 }

theorem stuckTree_reachable : stuckTree.Reachable := by
  have hadd := Tree.Reachable.empty.edit (.addSizedFile (.ofText "/run/a.dat") 200000000)
    (by rintro _ ⟨⟩; exact ⟨_, rfl⟩)
  exact (hadd.edit (.fail .rename (.ofText "/run/a.dat")) nofun).edit
    (.fail .removeFile (.ofText "/run/a.dat")) nofun

theorem stuckTree_readDir :
    stuckTree.readDir hundredMegabytes.workingDir = .ok [.ofText "/run/a.dat"] := by
  decide +kernel

theorem stuckTree_dir :
    stuckTree.find? hundredMegabytes.workingDir.components = some (.dir ["a.dat"]) := by
  decide +kernel

theorem stuckTree_file :
    stuckTree.find? (hundredMegabytes.source "a.dat") = some (.file [] 200000000) := by
  decide +kernel

theorem hundredMegabytes_dirs :
    hundredMegabytes.workingDir.components ≠ hundredMegabytes.archiveDir.components := by
  decide +kernel

/-- The file that can only be copied is told of once, and is not lost. -/
theorem sweep_keeps_stuck_file :
    ∃ report after, hundredMegabytes.sweep Tree.fileSystem stuckTree = (.ok report, after) ∧
      (report.entries.map Prod.fst).count "a.dat" = 1 ∧
      ((after.fileAt? (hundredMegabytes.source "a.dat") = none ∧
          after.find? (hundredMegabytes.target "a.dat") = some (.file [] 200000000)) ∨
        after.find? (hundredMegabytes.source "a.dat") = some (.file [] 200000000)) := by
  have hsweep : ∃ report after,
      hundredMegabytes.sweep Tree.fileSystem stuckTree = (.ok report, after) := by
    rw [sweep_tree, stuckTree_readDir]
    exact ⟨_, _, rfl⟩
  obtain ⟨report, after, hsweep⟩ := hsweep
  have hlarge : classify 200000000 hundredMegabytes.threshold = .archive := by decide +kernel
  have hlisted : "a.dat" ∈ stuckTree.list hundredMegabytes.workingDir :=
    Tree.mem_list.mpr ⟨_, stuckTree_dir, List.mem_singleton_self _⟩
  obtain ⟨hcount, harchive, -⟩ := sweep_keeps_files stuckTree_reachable hundredMegabytes_dirs hsweep
    hlisted stuckTree_file
  refine ⟨report, after, hsweep, hcount, ?_⟩
  rcases harchive hlarge with ⟨-, hsource, htarget⟩ | ⟨_, -, -, hsource, -⟩
  · exact .inl ⟨hsource, htarget⟩
  · exact .inr hsource

end RunSweep.Sweeper
