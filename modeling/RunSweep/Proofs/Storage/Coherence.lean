import Mathlib.Data.Set.Insert
import RunSweep.Proofs.Storage.Listings

/-!
# The two records of a tree agree

A tree is stored as entries and as the names that directories list. `Tree.Coherent` says that the two
agree: what a directory lists is there, and what is there is listed in the directory above. While a
directory is made with those above it, each of them is there before it is listed, so the second part is
said up to a set of orphans; the edits of a whole tree keep any set of orphans, down to none at all.

That takes edits in good order. A file that is put where a directory is leaves what the directory listed
without a parent, and so does a file that lies above a new entry. Such edits keep the first part only.
-/

namespace RunSweep

namespace Place

/-- A place is not at its parent or above it. -/
theorem not_prefix_parent {place parent : Place} (h : place.parent? = some parent) :
    ¬place <+: parent := by
  intro hprefix
  have hlt := Tree.parent?_length_lt h
  have hle := hprefix.length_le
  omega

/-- The parent of a path is at the place above. -/
theorem parent?_components {path parent : Path} (h : path.parent? = some parent) :
    parent? path.components = some parent.components := by
  obtain ⟨last, hroot, hpath⟩ := Path.exists_last_of_parent? h
  rw [parent?, hpath, List.getLast?_concat]
  cases last with
  | root => exact absurd rfl hroot
  | _ => exact congrArg some List.dropLast_concat

end Place

/-! ## Edits in good order -/

namespace Edit

/-- Whether an edit of a tree is let through. -/
def isAllowed (e : Edit) (t : Tree) : Bool :=
  match e with
  | addFile .. | addSizedFile .. | addDir _ | fail .. => true
  | createDirAll path => (t.createDirAll path).isOk
  | rename source target => (t.rename source target).isOk
  | copy source target => (t.copy source target).isOk
  | removeFile path => (t.removeFile path).isOk

/-- Whether it is a file that an edit makes. -/
def makesFile : Edit → Bool
  | addFile .. | addSizedFile .. | rename .. | copy .. => true
  | addDir _ | createDirAll _ | fail .. | removeFile _ => false

/-- **An edit in good order.** If it is let through, it puts no file where a directory is, and no file
lies above a place where it makes an entry that was not there. -/
def Orderly (e : Edit) (t : Tree) : Prop :=
  ∀ path ∈ e.made?, e.isAllowed t = true →
    (e.makesFile = true → t.isDir path = false) ∧
      (t.contains path = false →
        ∀ upper ∈ Place.above path.components, t.kindAt? upper ≠ some false)

instance (e : Edit) (t : Tree) : Decidable (e.Orderly t) :=
  inferInstanceAs (Decidable (∀ path ∈ e.made?, _ → _))

end Edit

namespace Edit.Orderly

variable {e : Edit} {t : Tree} {path : Path}

theorem no_dir (h : e.Orderly t) (hmade : e.made? = some path) (hallowed : e.isAllowed t = true)
    (hfile : e.makesFile = true) : t.kindAt? path.components ≠ some true := by
  rw [ne_eq, ← Tree.isDir_iff, Bool.not_eq_true]
  exact (h path hmade hallowed).1 hfile

theorem clear (h : e.Orderly t) (hmade : e.made? = some path) (hallowed : e.isAllowed t = true)
    (hnone : t.kindAt? path.components = none) :
    ∀ upper ∈ Place.above path.components, t.kindAt? upper ≠ some false :=
  (h path hmade hallowed).2 (Tree.contains_eq_false_iff.mpr hnone)

end Edit.Orderly

namespace Tree

/-- The target of a move that is let through lies in a directory. -/
theorem kindAt?_parent_of_allowMove {t : Tree} {operation : Operation} {source target : Path} {e : Entry}
    (h : t.allowMove operation source target = .ok e) {parent : Place}
    (hparent : Place.parent? target.components = some parent) : t.kindAt? parent = some true := by
  unfold allowMove at h
  rcases hcheck : t.check operation source with _ | ⟨⟩ <;> rw [hcheck] at h
  · cases h
  rcases hrequire : t.requireParent target with _ | ⟨⟩ <;> rw [hrequire] at h
  · cases h
  unfold requireParent at hrequire
  split at hrequire
  · cases hrequire
  · rename_i above habove
    split_ifs at hrequire with hdir
    rw [Place.parent?_components habove, Option.some.injEq] at hparent
    exact hparent ▸ isDir_iff.mp hdir

/-- **The trees that edits in good order lead to**, as far as what they make is called by text. -/
inductive OrderlyReachable : Tree → Prop where
  | empty : OrderlyReachable .empty
  | edit {t : Tree} (e : Edit) :
      OrderlyReachable t → e.InText → e.Orderly t → OrderlyReachable (e.apply t)

theorem OrderlyReachable.reachable {t : Tree} (h : t.OrderlyReachable) : t.Reachable := by
  induction h with
  | empty => exact .empty
  | edit e _ he _ ih => exact ih.edit e he

/-! ## Coherence -/

/-- **The two records of a tree agree**, except that some orphans need not be listed. -/
structure Coherent (orphans : Set Place) (t : Tree) : Prop where
  titled : ∀ place, t.kindAt? place ≠ none → place.Titled
  /-- What a directory lists is there. -/
  present : ∀ dir name, name ∈ t.namesAt dir → t.kindAt? (dir.child name) ≠ none
  /-- What is there lies in a directory, and is listed if it has a name. -/
  listed : ∀ place parent, t.kindAt? place ≠ none → place.parent? = some parent →
    place ∈ orphans ∨ t.kindAt? parent = some true ∧
      ∀ name, place.name? = some name → name ∈ t.namesAt parent

namespace Coherent

variable {t u : Tree} {orphans : Set Place} {place : Place}

theorem empty (orphans : Set Place) : Coherent orphans .empty := by
  have hkind (place : Place) (h : Tree.empty.kindAt? place ≠ none) : place = [.root] := by
    rw [kindAt?, find?_empty] at h
    split_ifs at h with hroot
    · exact hroot
    · exact absurd rfl h
  have hnames (dir : Place) : Tree.empty.namesAt dir = [] := by
    rw [namesAt, find?_empty]
    split_ifs <;> rfl
  constructor
  case titled =>
    intro place h name hname
    rw [hkind place h] at hname
    cases hname
  case present => simp [hnames]
  case listed =>
    intro place parent h hparent
    rw [hkind place h] at hparent
    cases hparent

theorem congr (h : t.Coherent orphans) (heq : u.Equiv t) : u.Coherent orphans := by
  constructor
  · simpa only [heq.kindAt?_eq] using h.titled
  · simpa only [heq.kindAt?_eq, heq.namesAt_eq] using h.present
  · simpa only [heq.kindAt?_eq, heq.namesAt_eq] using h.listed

/-- **An entry that is put somewhere and lists nothing** is an orphan until it is listed. A directory that
was there before leaves orphans. -/
theorem put (h : t.Coherent orphans) (hplace : place.Titled) {e : Entry} (he : e.names = [])
    (hdir : t.kindAt? place = some true → orphans = Set.univ) :
    (t.put place e).Coherent (insert place orphans) := by
  constructor
  case titled =>
    intro other hother
    rw [kindAt?_put] at hother
    split_ifs at hother with heq
    · exact heq ▸ hplace
    · exact h.titled other hother
  case present =>
    intro dir name hname
    rw [namesAt_put] at hname
    split_ifs at hname with heq
    · simp [he] at hname
    · rw [kindAt?_put]
      split_ifs
      · simp
      · exact h.present dir name hname
  case listed =>
    intro other parent hother hparent
    by_cases heq : other = place
    · exact .inl (.inl heq)
    rw [kindAt?_put, if_neg heq] at hother
    rcases h.listed other parent hother hparent with horphan | ⟨hkind, hnames⟩
    · exact .inl (.inr horphan)
    by_cases hplace' : parent = place
    · exact .inl (.inr (hdir (hplace' ▸ hkind) ▸ Set.mem_univ _))
    · rw [kindAt?_put, namesAt_put, if_neg hplace', if_neg hplace']
      exact .inr ⟨hkind, hnames⟩

/-- **To list a place** makes it an orphan no more, if there is a directory to list it. -/
theorem link (h : t.Coherent (insert place orphans)) (hthere : t.kindAt? place ≠ none)
    (habove : ∀ parent, place.parent? = some parent →
      place ∈ orphans ∨ t.kindAt? parent = some true) :
    (t.link place).Coherent orphans := by
  have hplace : place.Titled := h.titled place hthere
  have hkind (other : Place) : (t.link place).kindAt? other = t.kindAt? other :=
    kindAt?_mapSiblings _ _ _ _
  constructor
  case titled => simpa only [hkind] using h.titled
  case present =>
    intro dir name hname
    rw [hkind]
    rcases (mem_namesAt_link hplace).mp hname with hold | ⟨rfl, -⟩
    · exact h.present dir name hold
    · exact hthere
  case listed =>
    intro other parent hother hparent
    rw [hkind] at hother ⊢
    rcases h.listed other parent hother hparent with (rfl | horphan) | ⟨hdir, hnames⟩
    -- the place itself is listed now
    · refine (habove parent hparent).imp_right fun hdir => ⟨hdir, fun name hname => ?_⟩
      exact (mem_namesAt_link hplace).mpr (.inr ⟨hplace.eq_child hparent hname, hdir⟩)
    · exact .inl horphan
    · refine .inr ⟨hdir, fun name hname => ?_⟩
      exact (mem_namesAt_link hplace).mpr (.inl (hnames name hname))

/-- **A file that comes to a place** whose parent is a directory. -/
theorem withEntry (h : t.Coherent orphans) (hplace : place.Titled) {e : Entry} (he : e.isDir = false)
    (hdir : t.kindAt? place = some true → orphans = Set.univ)
    (habove : ∀ parent, place.parent? = some parent →
      place ∈ orphans ∨ t.kindAt? parent = some true) :
    (t.withEntry place e).Coherent orphans := by
  refine (h.put hplace (Entry.names_of_file he) hdir).link (by simp [kindAt?_put]) fun parent hparent => ?_
  refine (habove parent hparent).imp_right fun hkind => ?_
  rw [kindAt?_put, if_neg, hkind]
  rintro rfl
  exact absurd (parent?_length_lt hparent) (lt_irrefl _)

/-- **A file that goes** is not listed any more, and nothing else is lost from the lists. -/
theorem without (h : t.Coherent orphans) (hfile : t.kindAt? place = some false) :
    (t.without place).Coherent orphans := by
  have hplace : place.Titled := h.titled place (by simp [hfile])
  have hne {other : Place} (hother : (t.without place).kindAt? other ≠ none) : other ≠ place := by
    rintro rfl
    exact hother (kindAt?_without_self t _)
  constructor
  case titled =>
    intro other hother
    rw [kindAt?_without_of_ne t (hne hother)] at hother
    exact h.titled other hother
  case present =>
    intro dir name hname
    obtain ⟨hold, -, hother⟩ := (mem_namesAt_without hplace).mp hname
    rw [kindAt?_without_of_ne t hother.symm]
    exact h.present dir name hold
  case listed =>
    intro other parent hother hparent
    have hother' := hne hother
    rw [kindAt?_without_of_ne t hother'] at hother
    refine (h.listed other parent hother hparent).imp_right fun ⟨hdir, hnames⟩ => ?_
    -- the parent is a directory, and the file is none
    have hparent' : parent ≠ place := by
      rintro rfl
      simp [hfile] at hdir
    refine ⟨(kindAt?_without_of_ne t hparent').trans hdir, fun name hname => ?_⟩
    refine (mem_namesAt_without hplace).mpr ⟨hnames name hname, hparent', ?_⟩
    rw [← (h.titled other hother).eq_child hparent hname]
    exact hother'.symm

/-- **A file that is moved** into a directory. -/
theorem move (h : t.Coherent orphans) {source : Place} {e : Entry} (hfile : t.fileAt? source = some e)
    (hplace : place.Titled) (hdir : t.kindAt? place = some true → orphans = Set.univ)
    (hparents : ∀ parent, place.parent? = some parent → t.kindAt? parent = some true) :
    ((t.without source).withEntry place e).Coherent orphans := by
  have hsource := kindAt?_of_fileAt? hfile
  refine (h.without hsource).withEntry hplace (fileAt?_eq_some.mp hfile).2 (fun hkind => ?_)
    fun parent hparent => .inr ?_
  · have hne : place ≠ source := by
      rintro rfl
      rw [kindAt?_without_self] at hkind
      cases hkind
    rw [kindAt?_without_of_ne t hne] at hkind
    exact hdir hkind
  · have hkind := hparents parent hparent
    rw [kindAt?_without_of_ne t, hkind]
    rintro rfl
    simp [hsource] at hkind

/-- **A directory that is made with those above it**, if no file is among these. -/
theorem ensureDir (h : t.Coherent orphans) (hplace : place.Spelled)
    (hclear : orphans = Set.univ ∨ (t.kindAt? place = none →
      ∀ upper ∈ place.above, t.kindAt? upper ≠ some false)) :
    (t.ensureDir place).Coherent orphans := by
  induction hn : place.length using Nat.strong_induction_on generalizing t place orphans with
  | _ n ih =>
      by_cases hsome : (t.find? place).isSome = true
      · rw [ensureDir_of_isSome hsome]
        exact h
      have hnone : t.kindAt? place = none := by
        rw [kindAt?, Option.not_isSome_iff_eq_none.mp hsome]
        rfl
      have hput := h.put hplace.titled (e := .dir []) rfl (by simp [hnone])
      have hkind (other : Place) : (t.put place (.dir [])).kindAt? other =
          if other = place then some true else t.kindAt? other := kindAt?_put _ _ _ _
      cases hparent : place.parent? with
      | none =>
          have hlink := hput.link (by simp [hkind]) (by simp [hparent])
          rw [Tree.link, mapSiblings_of_parentless hparent] at hlink
          rw [ensureDir_of_no_parent hsome hparent]
          exact hlink
      | some parent =>
          rw [ensureDir_of_parent hsome hparent]
          have hput_clear : orphans = Set.univ ∨ ∀ upper ∈ parent :: parent.above,
              (t.put place (.dir [])).kindAt? upper ≠ some false := by
            refine hclear.imp_right fun hclear upper hupper => ?_
            rw [← Place.above_of_parent hparent] at hupper
            rw [hkind]
            split_ifs
            · simp
            · exact hclear hnone upper hupper
          -- the places above it are seen to while it is an orphan
          have hmade := ih parent.length (hn ▸ parent?_length_lt hparent) hput (hplace.parent hparent)
            (hput_clear.imp (fun huniv => by simp [huniv]) fun hclear _ upper hupper =>
              hclear upper (List.mem_cons_of_mem _ hupper)) rfl
          refine hmade.link ?_ fun parent' h => ?_
          · rw [kindAt?_ensureDir_of_some (by rw [hkind, if_pos rfl])]
            simp
          · obtain rfl := Option.some.inj (hparent.symm.trans h)
            refine hput_clear.imp (fun huniv => by simp [huniv]) fun hclear => ?_
            exact kindAt?_ensureDir_of_not_file (hclear parent List.mem_cons_self)

/-- **A file that is added**, with the directories above it. -/
theorem addEntry (h : t.Coherent orphans) {path : Path} (hpath : Utf8.IsText path.bytes)
    (hdir : t.kindAt? path.components = some true → orphans = Set.univ)
    (hclear : orphans = Set.univ ∨ orphans = ∅ ∧ (t.kindAt? path.components = none →
      ∀ upper ∈ Place.above path.components, t.kindAt? upper ≠ some false))
    (contents : Bytes) (len : UInt64) : (t.addEntry path contents len).Coherent orphans := by
  have hplace := Place.spelled_components hpath
  refine Coherent.congr ?_ (link_put_equiv _ _ _)
  cases hparent : Place.parent? path.components with
  | none => exact h.withEntry hplace.titled rfl hdir (by simp [hparent])
  | some parent =>
      -- the directory above is there, or no file is in its way
      have hfree : orphans = Set.univ ∨ t.kindAt? parent = some true ∨
          ∀ upper ∈ parent :: parent.above, t.kindAt? upper ≠ some false := by
        refine hclear.imp_right fun ⟨hnone, hclear⟩ => ?_
        by_cases hthere : t.kindAt? path.components = none
        · rw [← Place.above_of_parent hparent]
          exact .inr (hclear hthere)
        · exact .inl ((h.listed _ parent hthere hparent).resolve_left (by simp [hnone])).1
      have hmade : (t.ensureDir parent).Coherent orphans := by
        rcases hfree with huniv | hdir | hclear
        · exact h.ensureDir (hplace.parent hparent) (.inl huniv)
        · rw [ensureDir_of_kindAt? hdir]
          exact h
        · refine h.ensureDir (hplace.parent hparent) (.inr fun _ upper hupper => ?_)
          exact hclear upper (List.mem_cons_of_mem _ hupper)
      refine hmade.withEntry hplace.titled rfl (fun hkind => hdir ?_) fun parent' h => ?_
      · rwa [kindAt?_ensureDir_of_not_above _ (Place.not_prefix_parent hparent)] at hkind
      · obtain rfl := Option.some.inj (hparent.symm.trans h)
        rcases hfree with huniv | hdir | hclear
        · exact .inl (by simp [huniv])
        · exact .inr (kindAt?_ensureDir_of_some hdir)
        · exact .inr (kindAt?_ensureDir_of_not_file (hclear parent List.mem_cons_self))

/-- **An edit keeps the two records in step**, in any tree if nothing needs to be listed, and else if it is
in good order. -/
theorem apply {e : Edit} (h : t.Coherent orphans) (he : e.InText)
    (hok : orphans = Set.univ ∨ orphans = ∅ ∧ e.Orderly t) : (e.apply t).Coherent orphans := by
  have hdir {path : Path} (hmade : e.made? = some path) (hallowed : e.isAllowed t = true)
      (hfile : e.makesFile = true) (hkind : t.kindAt? path.components = some true) :
      orphans = Set.univ :=
    hok.elim id fun ⟨_, horderly⟩ => absurd hkind (horderly.no_dir hmade hallowed hfile)
  have hclear {path : Path} (hmade : e.made? = some path) (hallowed : e.isAllowed t = true) :
      orphans = Set.univ ∨ orphans = ∅ ∧ (t.kindAt? path.components = none →
        ∀ upper ∈ Place.above path.components, t.kindAt? upper ≠ some false) :=
    hok.imp_right fun ⟨hnone, horderly⟩ => ⟨hnone, horderly.clear hmade hallowed⟩
  cases e with
  | addFile path contents => exact h.addEntry (he path rfl) (hdir rfl rfl rfl) (hclear rfl rfl) _ _
  | addSizedFile path len => exact h.addEntry (he path rfl) (hdir rfl rfl rfl) (hclear rfl rfl) _ _
  | addDir path =>
      exact h.ensureDir (Place.spelled_components (he path rfl)) ((hclear rfl rfl).imp_right And.right)
  | fail operation path => exact h.congr fun _ => rfl
  | createDirAll path =>
      rw [Edit.apply, fileSystem_createDirAll]
      split
      · rename_i hallowed
        have hlet : Edit.isAllowed (.createDirAll path) t = true := by
          rw [Edit.isAllowed, createDirAll_eq, hallowed]
          rfl
        exact h.ensureDir (Place.spelled_components (he path rfl)) ((hclear rfl hlet).imp_right And.right)
      · exact h
  | rename source target =>
      rw [Edit.apply, fileSystem_rename]
      split
      · rename_i e hallowed
        have hlet : Edit.isAllowed (.rename source target) t = true := by
          rw [Edit.isAllowed, rename_eq, hallowed]
          rfl
        have hfile := allowMove_eq_ok hallowed
        have hplace := Place.spelled_components (he target rfl)
        exact h.move hfile hplace.titled (hdir rfl hlet rfl) fun parent hparent =>
          kindAt?_parent_of_allowMove hallowed hparent
      · exact h
  | copy source target =>
      rw [Edit.apply, fileSystem_copy]
      split
      · rename_i e hallowed
        have hlet : Edit.isAllowed (.copy source target) t = true := by
          rw [Edit.isAllowed, copy_eq, hallowed]
          rfl
        have hplace := Place.spelled_components (he target rfl)
        exact h.withEntry hplace.titled (fileAt?_eq_some.mp (allowMove_eq_ok hallowed)).2
          (hdir rfl hlet rfl) fun parent hparent =>
            .inr (kindAt?_parent_of_allowMove hallowed hparent)
      · exact h
  | removeFile path =>
      rw [Edit.apply, fileSystem_removeFile]
      split
      · rename_i e hallowed
        exact h.without (kindAt?_of_fileAt? (allowRemoval_eq_ok hallowed))
      · exact h

end Coherent

theorem OrderlyReachable.coherent {t : Tree} (h : t.OrderlyReachable) : t.Coherent ∅ := by
  induction h with
  | empty => exact .empty ∅
  | edit e _ he horderly ih => exact ih.apply he (.inr ⟨rfl, horderly⟩)

/-- What a directory lists is there, however the tree came about. -/
theorem Reachable.coherent {t : Tree} (h : t.Reachable) : t.Coherent Set.univ := by
  induction h with
  | empty => exact .empty Set.univ
  | edit e _ he ih => exact ih.apply he (.inl rfl)

/-! ## The invariant of a tree -/

/-- **What the two records of a tree are to each other.** No directory lists a name twice; what it lists is
there; and what has a name lies in a directory that lists it. -/
structure Consistent (t : Tree) : Prop where
  nodup : ∀ dir children, t.find? dir = some (.dir children) → children.Nodup
  present : ∀ dir children name, t.find? dir = some (.dir children) → name ∈ children →
    ∃ e, t.find? (dir.child name) = some e
  listed : ∀ place e name, t.find? place = some e → place.name? = some name →
    ∃ parent children, place.parent? = some parent ∧ t.find? parent = some (.dir children) ∧
      name ∈ children

/-- A tree that is tidy and has no orphans is consistent. -/
theorem Coherent.consistent {t : Tree} (h : t.Coherent ∅) (htidy : t.Tidy) : t.Consistent := by
  constructor
  case nodup => exact fun dir children hdir => (htidy dir children hdir).1
  case present =>
    intro dir children name hdir hmem
    rw [← namesAt_of_dir hdir] at hmem
    rw [← Option.ne_none_iff_exists']
    intro hnone
    exact h.present dir name hmem (by simp [kindAt?, hnone])
  case listed =>
    intro place e name he hname
    have hthere : t.kindAt? place ≠ none := by simp [kindAt?, he]
    obtain ⟨parent, rfl⟩ := h.titled place hthere name hname
    obtain ⟨-, hnames⟩ := (h.listed _ parent hthere Place.parent?_child).resolve_left (by simp)
    have hmem := hnames name hname
    exact ⟨parent, _, Place.parent?_child, find?_of_mem_namesAt hmem, hmem⟩

end Tree

/-- **A call that is refused changes nothing**, whichever call it is. -/
structure FileSystem.KeepsIfRefused {σ : Type} (fs : FileSystem σ) (s : σ) : Prop where
  readDir : ∀ path fault after, fs.readDir path s = (.error fault, after) → after = s
  metadata : ∀ path fault after, fs.metadata path s = (.error fault, after) → after = s
  createDirAll : ∀ path fault after, fs.createDirAll path s = (.error fault, after) → after = s
  rename : ∀ source target fault after,
    fs.rename source target s = (.error fault, after) → after = s
  copy : ∀ source target fault after, fs.copy source target s = (.error fault, after) → after = s
  removeFile : ∀ path fault after, fs.removeFile path s = (.error fault, after) → after = s

namespace Tree

theorem change_error {α : Type} {t after : Tree} {attempt : Except Fault (α × Tree)} {fault : Fault}
    (h : t.change attempt = (.error fault, after)) : after = t := by
  cases attempt with
  | ok => cases h
  | error => exact (Prod.mk.inj h).2.symm

theorem keepsIfRefused (t : Tree) : fileSystem.KeepsIfRefused t where
  readDir _ _ _ h := (Prod.mk.inj h).2.symm
  metadata _ _ _ h := (Prod.mk.inj h).2.symm
  createDirAll _ _ _ h := change_error h
  rename _ _ _ _ h := change_error h
  copy _ _ _ _ h := change_error h
  removeFile _ _ _ h := change_error h

/-- **Edits in good order keep the two records of a tree in step**, and no tree is changed by a call that
is refused. -/
theorem orderly_edits_keep_records {t : Tree} (h : t.OrderlyReachable) :
    t.Consistent ∧ ∀ u, fileSystem.KeepsIfRefused u :=
  ⟨h.coherent.consistent h.reachable.tidy, keepsIfRefused⟩

/-- Files that are added by absolute and relative paths, moved within a directory and onto themselves,
and copied over one another. -/
def shuffledTree : Tree :=
  [Edit.addFile (.ofText "/run/a.dat") [1, 2], .addSizedFile (.ofText "log/b") 7,
    .createDirAll (.ofText "/store/x"), .rename (.ofText "/run/a.dat") (.ofText "/run/c.dat"),
    .rename (.ofText "/run/c.dat") (.ofText "/run/./c.dat"),
    .copy (.ofText "/run/c.dat") (.ofText "log/b"), .removeFile (.ofText "/store/x"),
    .fail .rename (.ofText "log/b")].foldl (fun t e => e.apply t) .empty

theorem shuffledTree_orderly : shuffledTree.OrderlyReachable := by
  simp only [shuffledTree, List.foldl_cons, List.foldl_nil]
  refine .edit _ (.edit _ (.edit _ (.edit _ (.edit _ (.edit _ (.edit _ (.edit _ .empty
    ?_ ?_) ?_ ?_) ?_ ?_) ?_ ?_) ?_ ?_) ?_ ?_) ?_ ?_) ?_ ?_
  -- every path is one of text, and every edit is in good order
  all_goals first | (rintro _ ⟨⟩ <;> exact ⟨_, rfl⟩) | decide +kernel

theorem shuffledTree_consistent :
    shuffledTree.OrderlyReachable ∧ shuffledTree.Consistent ∧
      shuffledTree.find? (Path.ofText "/run").components = some (.dir ["c.dat"]) :=
  ⟨shuffledTree_orderly, (orderly_edits_keep_records shuffledTree_orderly).1, by decide +kernel⟩

end Tree

end RunSweep
