import Mathlib.Data.List.Nodup
import RunSweep.Proofs.Storage.Operations

/-!
# The trees that come about

`Edit` lists what can be done to a tree, and `Tree.Reachable` holds of the trees that edits on paths of
text lead to from the empty one. What such trees have in common is `Tree.Tidy`: every directory lists
names, and none of them twice.
-/

namespace RunSweep

/-- **What can be done to a tree**, in setting it up or through the operations of a store. -/
inductive Edit where
  | addFile (path : Path) (contents : Bytes)
  | addSizedFile (path : Path) (len : UInt64)
  | addDir (path : Path)
  | fail (operation : Operation) (path : Path)
  | createDirAll (path : Path)
  | rename (source target : Path)
  | copy (source target : Path)
  | removeFile (path : Path)

namespace Edit

/-- The tree after an edit. An operation that is refused leaves it as it is. -/
def apply : Edit → Tree → Tree
  | addFile path contents, t => t.addFile path contents
  | addSizedFile path len, t => t.addSizedFile path len
  | addDir path, t => t.addDir path
  | fail operation path, t => t.fail operation path
  | createDirAll path, t => (Tree.fileSystem.createDirAll path t).2
  | rename source target, t => (Tree.fileSystem.rename source target t).2
  | copy source target, t => (Tree.fileSystem.copy source target t).2
  | removeFile path, t => (Tree.fileSystem.removeFile path t).2

/-- The path at which an edit may make an entry. -/
def made? : Edit → Option Path
  | addFile path _ | addSizedFile path _ | addDir path | createDirAll path => some path
  | rename _ target | copy _ target => some target
  | fail .. | removeFile _ => none

/-- Whether what an edit makes is called by text. -/
def InText (e : Edit) : Prop :=
  ∀ path, e.made? = some path → Utf8.IsText path.bytes

end Edit

namespace Place

/-- Whether all names on the way to a place are names, and texts. -/
def Spelled (place : Place) : Prop :=
  ∀ bytes, .name bytes ∈ place → ∃ name, bytes = Utf8.encode name ∧ Path.IsName bytes

theorem spelled_components {path : Path} (h : Utf8.IsText path.bytes) :
    Spelled path.components :=
  fun _ hmem => Path.exists_encode_of_mem_components h hmem

theorem Spelled.parent {place parent : Place} (h : place.Spelled)
    (hparent : place.parent? = some parent) : parent.Spelled := by
  obtain ⟨last, rfl⟩ := parent?_eq_some hparent
  exact fun bytes hmem => h bytes (List.mem_append_left _ hmem)

theorem Spelled.isName {place : Place} (h : place.Spelled) {name : String}
    (hname : place.name? = some name) : Path.IsName (Utf8.encode name) := by
  unfold name? at hname
  split at hname
  · rename_i bytes hlast
    obtain ⟨text, rfl, hbytes⟩ := h bytes (List.mem_of_getLast? hlast)
    rw [Utf8.lossy_encode, Option.some.injEq] at hname
    exact hname ▸ hbytes
  · cases hname

end Place

namespace Tree

/-- **The trees that edits lead to**, as far as what they make is called by text. -/
inductive Reachable : Tree → Prop where
  | empty : Reachable .empty
  | edit {t : Tree} (e : Edit) : Reachable t → e.InText → Reachable (e.apply t)

/-- Every directory lists names, and none twice. -/
def Tidy (t : Tree) : Prop :=
  ∀ place children, t.find? place = some (.dir children) →
    children.Nodup ∧ ∀ name ∈ children, Path.IsName (Utf8.encode name)

theorem tidy_empty : Tidy .empty := by
  intro place children h
  rw [find?_empty] at h
  split_ifs at h
  obtain rfl := Entry.dir.inj (Option.some.inj h)
  exact ⟨List.nodup_nil, fun _ hmem => absurd hmem List.not_mem_nil⟩

namespace Tidy

/-- What a directory lists is a name. -/
theorem isName_of_mem_list {t : Tree} (h : t.Tidy) {path : Path} {name : String}
    (hlisted : name ∈ t.list path) : Path.IsName (Utf8.encode name) := by
  obtain ⟨children, hdir, hmem⟩ := mem_list.mp hlisted
  exact (h _ children hdir).2 name hmem

theorem put_dir {t : Tree} (h : t.Tidy) (place : Place) : (t.put place (.dir [])).Tidy := by
  intro other children hdir
  rw [find?_put] at hdir
  split_ifs at hdir
  · obtain rfl := Entry.dir.inj (Option.some.inj hdir)
    exact ⟨List.nodup_nil, fun _ hmem => absurd hmem List.not_mem_nil⟩
  · exact h other children hdir

theorem put_file {t : Tree} (h : t.Tidy) (place : Place) {e : Entry} (he : e.isDir = false) :
    (t.put place e).Tidy := by
  intro other children hdir
  rw [find?_put] at hdir
  split_ifs at hdir
  · obtain rfl := Option.some.inj hdir
    cases he
  · exact h other children hdir

theorem erase {t : Tree} (h : t.Tidy) (place : Place) : (t.erase place).Tidy := by
  intro other children hdir
  rw [find?_erase] at hdir
  split_ifs at hdir
  exact h other children hdir

theorem mapSiblings {t : Tree} (h : t.Tidy) (place : Place)
    {f : String → List String → List String}
    (hf : ∀ name children, place.name? = some name → children.Nodup →
      (∀ other ∈ children, Path.IsName (Utf8.encode other)) →
        (f name children).Nodup ∧ ∀ other ∈ f name children, Path.IsName (Utf8.encode other)) :
    (t.mapSiblings place f).Tidy := by
  rcases t.mapSiblings_eq place f with heq | ⟨parent, name, -, hname, heq⟩
  · rw [heq]
    exact h
  rw [heq]
  intro other children hdir
  rw [find?_mapChildren] at hdir
  split_ifs at hdir
  · obtain ⟨e, he, hmap⟩ := Option.map_eq_some_iff.mp hdir
    cases e with
    | file => cases hmap
    | dir before =>
        obtain rfl := Entry.dir.inj hmap
        obtain ⟨hnodup, hnames⟩ := h parent before he
        exact hf name before hname hnodup hnames
  · exact h other children hdir

theorem link {t : Tree} (h : t.Tidy) {place : Place} (hplace : place.Spelled) :
    (t.link place).Tidy := by
  refine h.mapSiblings place fun name children hname hnodup hnames => ?_
  split_ifs with hmem
  · exact ⟨hnodup, hnames⟩
  · rw [List.contains_iff_mem] at hmem
    -- a name that is not there yet is added
    refine ⟨?_, fun other hother => ?_⟩
    · exact List.Nodup.append hnodup (List.nodup_singleton _) (List.disjoint_singleton.mpr hmem)
    · rcases List.mem_append.mp hother with hother | hother
      · exact hnames other hother
      · exact List.mem_singleton.mp hother ▸ hplace.isName hname

theorem unlink {t : Tree} (h : t.Tidy) (place : Place) : (t.unlink place).Tidy := by
  refine h.mapSiblings place fun name children _ hnodup hnames => ?_
  exact ⟨hnodup.filter _, fun other hother => hnames other (List.mem_of_mem_filter hother)⟩

theorem without {t : Tree} (h : t.Tidy) (place : Place) : (t.without place).Tidy :=
  (h.erase place).unlink place

theorem withEntry {t : Tree} (h : t.Tidy) {place : Place} (hplace : place.Spelled) {e : Entry}
    (he : e.isDir = false) : (t.withEntry place e).Tidy :=
  (h.put_file place he).link hplace

theorem ensureDir {t : Tree} (h : t.Tidy) {place : Place} (hplace : place.Spelled) :
    (t.ensureDir place).Tidy := by
  refine ensureDir_induction (motive := fun t place made => t.Tidy → place.Spelled → made.Tidy)
    (fun _ _ _ h _ => h) (fun _ place _ _ h _ => h.put_dir place) ?_ t place h hplace
  intro _ place parent _ _ hparent ih h hplace
  exact (ih (h.put_dir place) (hplace.parent hparent)).link hplace

theorem addEntry {t : Tree} (h : t.Tidy) {path : Path} (hpath : Utf8.IsText path.bytes)
    (contents : Bytes) (len : UInt64) : (t.addEntry path contents len).Tidy := by
  have hplace := Place.spelled_components hpath
  refine Tidy.put_file (Tidy.link ?_ hplace) _ rfl
  cases hparent : Place.parent? path.components with
  | none => exact h
  | some parent => exact h.ensureDir (hplace.parent hparent)

theorem apply {t : Tree} (h : t.Tidy) {e : Edit} (he : e.InText) : (e.apply t).Tidy := by
  cases e with
  | addFile path contents => exact h.addEntry (he path rfl) contents _
  | addSizedFile path len => exact h.addEntry (he path rfl) [] len
  | addDir path => exact h.ensureDir (Place.spelled_components (he path rfl))
  | fail operation path => exact h
  | createDirAll path =>
      rw [Edit.apply, fileSystem_createDirAll]
      split
      · exact h.ensureDir (Place.spelled_components (he path rfl))
      · exact h
  | rename source target =>
      rw [Edit.apply, fileSystem_rename]
      split
      · rename_i e hallowed
        have hfile : e.isDir = false := (fileAt?_eq_some.mp (allowMove_eq_ok hallowed)).2
        exact (h.without _).withEntry (Place.spelled_components (he target rfl)) hfile
      · exact h
  | copy source target =>
      rw [Edit.apply, fileSystem_copy]
      split
      · rename_i e hallowed
        have hfile : e.isDir = false := (fileAt?_eq_some.mp (allowMove_eq_ok hallowed)).2
        exact h.withEntry (Place.spelled_components (he target rfl)) hfile
      · exact h
  | removeFile path =>
      rw [Edit.apply, fileSystem_removeFile]
      split
      · exact h.without _
      · exact h

end Tidy

theorem Reachable.tidy {t : Tree} (h : t.Reachable) : t.Tidy := by
  induction h with
  | empty => exact tidy_empty
  | edit e _ he ih => exact ih.apply he

end Tree

end RunSweep
