import RunSweep.Proofs.Storage.Views

/-!
# The operations of a tree

An operation looks at the tree and is let through or refused; what it then does is one of three changes.
`allowMove`, `allowRemoval` and `allowDir` say what is looked at, `without`, `withEntry` and `ensureDir`
are the changes, and each operation is the one followed by the other.
-/

namespace RunSweep.Tree

/-- The tree without the file at a place, and without its name in the parent. -/
def without (t : Tree) (place : Place) : Tree :=
  (t.erase place).unlink place

/-- The tree with an entry at a place that its parent lists. -/
def withEntry (t : Tree) (place : Place) (e : Entry) : Tree :=
  (t.put place e).link place

/-! ## What the two changes leave -/

@[simp] theorem failing_without (t : Tree) (place : Place) :
    (t.without place).failing = t.failing :=
  failing_mapSiblings _ _ _

@[simp] theorem failing_withEntry (t : Tree) (place : Place) (e : Entry) :
    (t.withEntry place e).failing = t.failing :=
  failing_mapSiblings _ _ _

theorem fileAt?_without (t : Tree) (place other : Place) :
    (t.without place).fileAt? other = if other = place then none else t.fileAt? other := by
  rw [without, unlink, fileAt?_mapSiblings, fileAt?_erase]

theorem fileAt?_withEntry (t : Tree) (place other : Place) {e : Entry} (he : e.isDir = false) :
    (t.withEntry place e).fileAt? other = if other = place then some e else t.fileAt? other := by
  rw [withEntry, link, fileAt?_mapSiblings, fileAt?_put_file _ _ _ he]

theorem kindAt?_without_of_ne (t : Tree) {place other : Place} (h : other ≠ place) :
    (t.without place).kindAt? other = t.kindAt? other := by
  rw [without, unlink, kindAt?_mapSiblings, kindAt?_erase_of_ne _ h]

theorem kindAt?_withEntry_of_ne (t : Tree) {place other : Place} (e : Entry) (h : other ≠ place) :
    (t.withEntry place e).kindAt? other = t.kindAt? other := by
  rw [withEntry, link, kindAt?_mapSiblings, kindAt?_put, if_neg h]

theorem kindAt?_without_self (t : Tree) (place : Place) : (t.without place).kindAt? place = none := by
  rw [without, unlink, kindAt?_mapSiblings, kindAt?, find?_erase, if_pos rfl]
  rfl

theorem kindAt?_withEntry_self (t : Tree) (place : Place) (e : Entry) :
    (t.withEntry place e).kindAt? place = some e.isDir := by
  rw [withEntry, link, kindAt?_mapSiblings, kindAt?_put, if_pos rfl]

theorem find?_without_of_ne (t : Tree) {place other : Place} (h : other ≠ place)
    (hparent : place.parent? ≠ some other) : (t.without place).find? other = t.find? other := by
  rw [without, unlink, find?_mapSiblings_of_ne _ _ hparent, find?_erase, if_neg h]

theorem find?_withEntry_of_ne (t : Tree) {place other : Place} (e : Entry) (h : other ≠ place)
    (hparent : place.parent? ≠ some other) : (t.withEntry place e).find? other = t.find? other := by
  rw [withEntry, link, find?_mapSiblings_of_ne _ _ hparent, find?_put, if_neg h]

/-! ## When an operation is let through -/

/-- Whether an operation on a place is to fail. -/
def refuses (t : Tree) (operation : Operation) (place : Place) : Bool :=
  t.failing.contains (operation, place)

theorem check_eq (t : Tree) (operation : Operation) (path : Path) :
    t.check operation path =
      if t.refuses operation path.components then .error (.injected operation path) else .ok () :=
  rfl

/-- What stands before a file is moved or copied: the operation is not to fail, the target has a
directory to lie in, and the source is a file, which is the answer. -/
def allowMove (t : Tree) (operation : Operation) (source target : Path) : Except Fault Entry := do
  t.check operation source
  t.requireParent target
  t.requireFile source

/-- What stands before a file is removed. -/
def allowRemoval (t : Tree) (path : Path) : Except Fault Entry := do
  t.check .removeFile path
  t.requireFile path

/-- What stands before a directory is made: no file is in its place. -/
def allowDir (t : Tree) (path : Path) : Except Fault Unit := do
  t.check .createDir path
  match t.find? path.components with
  | some (.file ..) => throw (.fileExists path)
  | _ => return ()

theorem isDir_eq (t : Tree) (path : Path) :
    t.isDir path = (t.kindAt? path.components).getD false := rfl

theorem isDir_iff {t : Tree} {path : Path} :
    t.isDir path = true ↔ t.kindAt? path.components = some true := by
  rw [isDir_eq]
  rcases t.kindAt? path.components with _ | kind <;> simp

theorem contains_eq_false_iff {t : Tree} {path : Path} :
    t.contains path = false ↔ t.kindAt? path.components = none := by
  rw [contains, kindAt?, Option.map_eq_none_iff, Option.isSome_eq_false_iff, Option.isNone_iff_eq_none]

theorem allowDir_eq (t : Tree) (path : Path) :
    t.allowDir path =
      if t.refuses .createDir path.components then .error (.injected .createDir path)
      else if t.kindAt? path.components = some false then .error (.fileExists path)
      else .ok () := by
  unfold allowDir kindAt?
  rw [check_eq]
  by_cases hrefuses : t.refuses .createDir path.components = true
  · rw [if_pos hrefuses, if_pos hrefuses]
    rfl
  · rw [if_neg hrefuses, if_neg hrefuses]
    rcases t.find? path.components with _ | (_ | _) <;> rfl

theorem createDirAll_eq (t : Tree) (path : Path) :
    t.createDirAll path = (t.allowDir path).map fun _ => t.ensureDir path.components := by
  unfold createDirAll allowDir
  rcases t.check .createDir path with _ | ⟨⟩
  · rfl
  rcases t.find? path.components with _ | (_ | _) <;> rfl

theorem rename_eq (t : Tree) (source target : Path) :
    t.rename source target = (t.allowMove .rename source target).map fun e =>
      (t.without source.components).withEntry target.components e := by
  unfold rename allowMove
  rcases t.check .rename source with _ | ⟨⟩
  · rfl
  rcases t.requireParent target with _ | ⟨⟩
  · rfl
  rcases t.requireFile source with _ | e <;> rfl

theorem copy_eq (t : Tree) (source target : Path) :
    t.copy source target = (t.allowMove .copy source target).map fun e =>
      (e.metadata.len, t.withEntry target.components e) := by
  unfold copy allowMove
  rcases t.check .copy source with _ | ⟨⟩
  · rfl
  rcases t.requireParent target with _ | ⟨⟩
  · rfl
  rcases t.requireFile source with _ | e <;> rfl

theorem removeFile_eq (t : Tree) (path : Path) :
    t.removeFile path = (t.allowRemoval path).map fun _ => t.without path.components := by
  unfold removeFile allowRemoval
  rcases t.check .removeFile path with _ | ⟨⟩
  · rfl
  rcases t.requireFile path with _ | e <;> rfl

theorem readDir_eq_ok_iff {t : Tree} {path : Path} {paths : List Path} :
    t.readDir path = .ok paths ↔
      t.refuses .readDir path.components = false ∧
        ∃ children, t.find? path.components = some (.dir children) ∧
          paths = children.map fun name => path.join (Utf8.encode name) := by
  unfold readDir
  rw [check_eq]
  cases t.refuses .readDir path.components
  case true => simp [bind, Except.bind]
  case false =>
    rcases t.find? path.components with _ | (_ | children)
    · simp [bind, Except.bind, throw, throwThe, MonadExceptOf.throw]
    · simp [bind, Except.bind, throw, throwThe, MonadExceptOf.throw]
    · simp [bind, Except.bind, pure, Except.pure, eq_comm]

/-- A listing tells the names of the directory, in whatever order. -/
theorem mem_list {t : Tree} {path : Path} {name : String} :
    name ∈ t.list path ↔
      ∃ children, t.find? path.components = some (.dir children) ∧ name ∈ children := by
  unfold list
  split
  · rename_i children hdir
    rw [List.mem_mergeSort, hdir]
    constructor
    · intro hmem
      exact ⟨children, rfl, hmem⟩
    · rintro ⟨_, hchildren, hmem⟩
      obtain rfl := Entry.dir.inj (Option.some.inj hchildren)
      exact hmem
  · rename_i hnone
    constructor
    · intro hmem
      exact absurd hmem List.not_mem_nil
    · rintro ⟨children, hchildren, -⟩
      exact absurd hchildren (hnone children)

/-- What is told of an entry. -/
theorem metadata_eq_ok_iff {t : Tree} {path : Path} {info : EntryMeta} :
    t.metadata path = .ok info ↔
      t.refuses .metadata path.components = false ∧
        (t.find? path.components).map Entry.metadata = some info := by
  unfold metadata
  rw [check_eq]
  cases t.refuses .metadata path.components
  case true => simp [bind, Except.bind]
  case false =>
    rcases t.find? path.components with _ | e
    · simp [bind, Except.bind, throw, throwThe, MonadExceptOf.throw]
    · simp [bind, Except.bind, pure, Except.pure]

/-- What is told of a file, unless it is refused. -/
theorem metadata_file {t : Tree} (path : Path) {contents : Bytes} {len : UInt64}
    (h : t.fileAt? path.components = some (.file contents len)) :
    (∃ fault, t.metadata path = .error fault) ∨ t.metadata path = .ok ⟨len, false⟩ := by
  rcases hmeta : t.metadata path with fault | info
  · exact .inl ⟨fault, rfl⟩
  · obtain ⟨-, hinfo⟩ := metadata_eq_ok_iff.mp hmeta
    rw [(fileAt?_eq_some.mp h).1] at hinfo
    exact .inr (congrArg Except.ok (Option.some.inj hinfo).symm)

/-- What is no directory, and of which something is told, is a file. -/
theorem exists_file_of_metadata {t : Tree} {path : Path} {len : UInt64}
    (h : t.metadata path = .ok ⟨len, false⟩) :
    ∃ contents, t.fileAt? path.components = some (.file contents len) := by
  obtain ⟨-, hinfo⟩ := metadata_eq_ok_iff.mp h
  obtain ⟨⟨contents, own⟩ | children, hfind, hinfo⟩ := Option.map_eq_some_iff.mp hinfo
  · obtain rfl : own = len := congrArg EntryMeta.len hinfo
    exact ⟨contents, fileAt?_eq_some.mpr ⟨hfind, rfl⟩⟩
  · cases hinfo

theorem requireFile_eq_ok {t : Tree} {path : Path} {e : Entry} (h : t.requireFile path = .ok e) :
    t.fileAt? path.components = some e := by
  unfold requireFile at h
  rw [fileAt?_eq_some]
  split at h
  · rename_i contents len hfile
    obtain rfl := Except.ok.inj h
    exact ⟨hfile, rfl⟩
  · cases h
  · cases h

theorem allowMove_eq_ok {t : Tree} {operation : Operation} {source target : Path} {e : Entry}
    (h : t.allowMove operation source target = .ok e) : t.fileAt? source.components = some e := by
  unfold allowMove at h
  rcases hcheck : t.check operation source with _ | ⟨⟩ <;> rw [hcheck] at h
  · cases h
  rcases hparent : t.requireParent target with _ | ⟨⟩ <;> rw [hparent] at h
  · cases h
  exact requireFile_eq_ok h

theorem allowRemoval_eq_ok {t : Tree} {path : Path} {e : Entry} (h : t.allowRemoval path = .ok e) :
    t.fileAt? path.components = some e := by
  unfold allowRemoval at h
  rcases hcheck : t.check .removeFile path with _ | ⟨⟩ <;> rw [hcheck] at h
  · cases h
  exact requireFile_eq_ok h

/-! ## The operations as calls on a store -/

theorem fileSystem_readDir (t : Tree) (path : Path) :
    fileSystem.readDir path t = (t.readDir path, t) := rfl

theorem fileSystem_metadata (t : Tree) (path : Path) :
    fileSystem.metadata path t = (t.metadata path, t) := rfl

theorem fileSystem_isDir (t : Tree) (path : Path) :
    fileSystem.isDir path t = (t.isDir path, t) := rfl

theorem fileSystem_createDirAll (t : Tree) (path : Path) :
    fileSystem.createDirAll path t =
      match t.allowDir path with
      | .ok _ => (.ok (), t.ensureDir path.components)
      | .error fault => (.error fault, t) := by
  show t.change ((t.createDirAll path).map ((), ·)) = _
  rw [createDirAll_eq]
  rcases t.allowDir path with _ | _ <;> rfl

theorem fileSystem_rename (t : Tree) (source target : Path) :
    fileSystem.rename source target t =
      match t.allowMove .rename source target with
      | .ok e => (.ok (), (t.without source.components).withEntry target.components e)
      | .error fault => (.error fault, t) := by
  show t.change ((t.rename source target).map ((), ·)) = _
  rw [rename_eq]
  rcases t.allowMove .rename source target with _ | e <;> rfl

theorem fileSystem_copy (t : Tree) (source target : Path) :
    fileSystem.copy source target t =
      match t.allowMove .copy source target with
      | .ok e => (.ok e.metadata.len, t.withEntry target.components e)
      | .error fault => (.error fault, t) := by
  show t.change (t.copy source target) = _
  rw [copy_eq]
  rcases t.allowMove .copy source target with _ | e <;> rfl

theorem fileSystem_removeFile (t : Tree) (path : Path) :
    fileSystem.removeFile path t =
      match t.allowRemoval path with
      | .ok _ => (.ok (), t.without path.components)
      | .error fault => (.error fault, t) := by
  show t.change ((t.removeFile path).map ((), ·)) = _
  rw [removeFile_eq]
  rcases t.allowRemoval path with _ | e <;> rfl

/-! ## More operations that are to fail -/

/-- The tree with more operations that are to fail. -/
def failAll (t : Tree) (extra : List (Operation × Path)) : Tree :=
  extra.foldl (fun t (operation, path) => t.fail operation path) t

variable {t : Tree} {operation : Operation} {place : Place}

@[simp] theorem find?_failAll (extra : List (Operation × Path)) :
    (t.failAll extra).find? place = t.find? place := by
  unfold failAll
  induction extra generalizing t with
  | nil => rfl
  | cons p extra ih =>
      rw [List.foldl_cons, ih]
      rfl

/-- Nothing else fails. -/
theorem refuses_failAll {extra : List (Operation × Path)}
    (h : ∀ path, (operation, path) ∈ extra → path.components ≠ place) :
    (t.failAll extra).refuses operation place = t.refuses operation place := by
  unfold failAll
  induction extra generalizing t with
  | nil => rfl
  | cons p extra ih =>
      have hp : ((operation, place) == (p.1, p.2.components)) = false := by
        rw [beq_eq_false_iff_ne]
        intro heq
        obtain ⟨rfl, hplace⟩ := Prod.mk.inj heq
        exact h p.2 List.mem_cons_self hplace.symm
      rw [List.foldl_cons, ih fun path hpath => h path (List.mem_cons_of_mem _ hpath)]
      exact (List.contains_cons).trans (by rw [hp, Bool.false_or]; rfl)

end RunSweep.Tree
