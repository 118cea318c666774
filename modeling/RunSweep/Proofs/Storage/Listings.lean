import RunSweep.Proofs.Storage.Equivalence
import RunSweep.Proofs.Storage.Reachable

/-!
# What directories list

A fourth way to look at a tree: `namesAt` is what a directory lists. A change of a tree adds a name to one
list, or takes one out, and a name stands for the place that its directory calls by it, `Place.child`. So
the lemmas say of each change for which child a name comes or goes. They need the places that change to be
`Titled`: a name is told by text, and other bytes would be listed under a name that leads elsewhere.
-/

namespace RunSweep

/-- The names that an entry lists. -/
def Entry.names : Entry → List String
  | dir children => children
  | file .. => []

theorem Entry.names_of_file {e : Entry} (he : e.isDir = false) : e.names = [] := by
  cases e with
  | file => rfl
  | dir => cases he

namespace Place

/-- The place that a directory calls by a name. -/
def child (dir : Place) (name : String) : Place :=
  dir ++ [.name (Utf8.encode name)]

variable {dir dir' place : Place} {name name' : String}

@[simp] theorem parent?_child : (dir.child name).parent? = some dir :=
  parent?_concat dir _

@[simp] theorem name?_child : (dir.child name).name? = some name := by
  simp [name?, child, Utf8.lossy_encode]

theorem child_inj : dir.child name = dir'.child name' ↔ dir = dir' ∧ name = name' := by
  constructor
  · intro h
    have hparent := congrArg parent? h
    have hname := congrArg name? h
    simp only [parent?_child, name?_child, Option.some.injEq] at hparent hname
    exact ⟨hparent, hname⟩
  · rintro ⟨rfl, rfl⟩
    rfl

theorem ne_child (dir : Place) (name : String) : dir ≠ dir.child name :=
  Tree.ne_concat dir _

/-- A place without a name, or with one that is a text. -/
def Titled (place : Place) : Prop :=
  ∀ name, place.name? = some name → ∃ dir : Place, place = dir.child name

theorem titled_child (dir : Place) (name : String) : Titled (dir.child name) := by
  intro name' h
  rw [name?_child, Option.some.injEq] at h
  exact ⟨dir, h ▸ rfl⟩

/-- Where all names on the way are texts, the last is one. -/
theorem Spelled.titled (h : place.Spelled) : place.Titled := by
  intro name hname
  unfold name? at hname
  split at hname
  · rename_i bytes hlast
    obtain ⟨text, rfl, -⟩ := h bytes (List.mem_of_getLast? hlast)
    obtain ⟨dir, rfl⟩ := List.getLast?_eq_some_iff.mp hlast
    rw [Utf8.lossy_encode, Option.some.injEq] at hname
    exact ⟨dir, hname ▸ rfl⟩
  · cases hname

/-- A titled place with a parent and a name is the parent's child. -/
theorem Titled.eq_child (h : place.Titled) (hparent : place.parent? = some dir)
    (hname : place.name? = some name) : place = dir.child name := by
  obtain ⟨dir', rfl⟩ := h name hname
  rw [parent?_child, Option.some.injEq] at hparent
  rw [hparent]

end Place

namespace Tree

/-- The names that a place lists; none where there is no directory. -/
def namesAt (t : Tree) (dir : Place) : List String :=
  ((t.find? dir).map Entry.names).getD []

variable {t u : Tree} {dir place : Place} {name : String}

theorem namesAt_of_dir {children : List String} (h : t.find? dir = some (.dir children)) :
    t.namesAt dir = children := by
  rw [namesAt, h]
  rfl

/-- Only directories list names. -/
theorem find?_of_mem_namesAt (h : name ∈ t.namesAt dir) :
    t.find? dir = some (.dir (t.namesAt dir)) := by
  unfold namesAt at h ⊢
  rcases hfind : t.find? dir with _ | (_ | children)
  · simp [hfind] at h
  · simp [hfind, Entry.names] at h
  · rfl

theorem kindAt?_of_mem_namesAt (h : name ∈ t.namesAt dir) : t.kindAt? dir = some true := by
  rw [kindAt?, find?_of_mem_namesAt h]
  rfl

/-- A path is listed as its place is. -/
theorem mem_list_iff_namesAt {path : Path} :
    name ∈ t.list path ↔ name ∈ t.namesAt path.components := by
  rw [mem_list]
  constructor
  · rintro ⟨children, hdir, hmem⟩
    rwa [namesAt_of_dir hdir]
  · intro hmem
    exact ⟨_, find?_of_mem_namesAt hmem, hmem⟩

theorem Equiv.namesAt_eq (h : t.Equiv u) (dir : Place) : t.namesAt dir = u.namesAt dir := by
  rw [namesAt, namesAt, h dir]

/-! ## Writing an entry -/

theorem namesAt_put (t : Tree) (place dir : Place) (e : Entry) :
    (t.put place e).namesAt dir = if dir = place then e.names else t.namesAt dir := by
  unfold namesAt
  rw [find?_put]
  split_ifs <;> rfl

theorem namesAt_erase (t : Tree) (place dir : Place) :
    (t.erase place).namesAt dir = if dir = place then [] else t.namesAt dir := by
  unfold namesAt
  rw [find?_erase]
  split_ifs <;> rfl

theorem namesAt_mapChildren (t : Tree) (place dir : Place) (f : List String → List String) :
    (t.mapChildren place f).namesAt dir =
      if dir = place ∧ t.kindAt? place = some true then f (t.namesAt place) else t.namesAt dir := by
  unfold namesAt kindAt?
  rw [find?_mapChildren]
  by_cases h : dir = place
  · subst h
    rcases t.find? dir with _ | (_ | children) <;> simp [Entry.mapChildren, Entry.names, Entry.isDir]
  · simp [h]

theorem mapSiblings_child (f : String → List String → List String) :
    t.mapSiblings (dir.child name) f = t.mapChildren dir (f name) := by
  rw [mapSiblings, Place.parent?_child, Place.name?_child]

theorem mapSiblings_of_nameless (h : place.name? = none) (f : String → List String → List String) :
    t.mapSiblings place f = t := by
  rw [mapSiblings, h]
  split
  · rename_i hname
    cases hname
  · rfl

theorem mapSiblings_of_parentless (h : place.parent? = none)
    (f : String → List String → List String) : t.mapSiblings place f = t := by
  rw [mapSiblings, h]

/-! ## Listing a place -/

/-- **A link adds the name of its place** to the list of the directory above, if there is one. -/
theorem mem_namesAt_link (hplace : place.Titled) :
    name ∈ (t.link place).namesAt dir ↔
      name ∈ t.namesAt dir ∨ place = dir.child name ∧ t.kindAt? dir = some true := by
  unfold link
  cases hname : place.name? with
  | none =>
      rw [mapSiblings_of_nameless hname]
      have hne : place ≠ dir.child name := by
        rintro rfl
        simp at hname
      simp [hne]
  | some own =>
      obtain ⟨above, rfl⟩ := hplace own hname
      rw [mapSiblings_child, namesAt_mapChildren, Place.child_inj]
      by_cases hdir : dir = above ∧ t.kindAt? above = some true
      · obtain ⟨rfl, hkind⟩ := hdir
        rw [if_pos ⟨rfl, hkind⟩]
        split_ifs with hmem
        · rw [List.contains_iff_mem] at hmem
          constructor
          · exact Or.inl
          · rintro (hold | ⟨⟨-, rfl⟩, -⟩)
            · exact hold
            · exact hmem
        · simp [hkind, eq_comm]
      · rw [if_neg hdir]
        constructor
        · exact Or.inl
        · rintro (hold | ⟨⟨rfl, -⟩, hkind⟩)
          · exact hold
          · exact absurd ⟨rfl, hkind⟩ hdir

/-- **An unlink takes out the name of its place.** -/
theorem mem_namesAt_unlink (hplace : place.Titled) :
    name ∈ (t.unlink place).namesAt dir ↔ name ∈ t.namesAt dir ∧ place ≠ dir.child name := by
  unfold unlink
  cases hname : place.name? with
  | none =>
      rw [mapSiblings_of_nameless hname]
      have hne : place ≠ dir.child name := by
        rintro rfl
        simp at hname
      simp [hne]
  | some own =>
      obtain ⟨above, rfl⟩ := hplace own hname
      rw [mapSiblings_child, namesAt_mapChildren, ne_eq, Place.child_inj]
      by_cases hdir : dir = above ∧ t.kindAt? above = some true
      · obtain ⟨rfl, hkind⟩ := hdir
        rw [if_pos ⟨rfl, hkind⟩, List.mem_filter, bne_iff_ne, ne_comm]
        simp
      · rw [if_neg hdir]
        constructor
        · intro hmem
          refine ⟨hmem, ?_⟩
          rintro ⟨rfl, -⟩
          exact hdir ⟨rfl, kindAt?_of_mem_namesAt hmem⟩
        · exact And.left

/-- No directory lists a name twice after a link if it did not before. -/
theorem nodup_namesAt_link (h : (t.namesAt dir).Nodup) : ((t.link place).namesAt dir).Nodup := by
  unfold link
  rcases t.mapSiblings_eq place _ with heq | ⟨parent, name, -, -, heq⟩
  · rw [heq]
    exact h
  · rw [heq, namesAt_mapChildren]
    split_ifs with hdir hmem
    · exact hdir.1 ▸ h
    · rw [List.contains_iff_mem] at hmem
      exact List.Nodup.append (hdir.1 ▸ h) (List.nodup_singleton _) (List.disjoint_singleton.mpr hmem)
    · exact h

theorem nodup_namesAt_unlink (h : (t.namesAt dir).Nodup) : ((t.unlink place).namesAt dir).Nodup := by
  unfold unlink
  rcases t.mapSiblings_eq place _ with heq | ⟨parent, name, -, -, heq⟩
  · rw [heq]
    exact h
  · rw [heq, namesAt_mapChildren]
    split_ifs with hdir
    · exact (hdir.1 ▸ h).filter _
    · exact h

/-! ## Files that come and go -/

theorem mem_namesAt_without (hplace : place.Titled) :
    name ∈ (t.without place).namesAt dir ↔
      name ∈ t.namesAt dir ∧ dir ≠ place ∧ place ≠ dir.child name := by
  rw [without, mem_namesAt_unlink hplace, namesAt_erase]
  by_cases h : dir = place <;> simp [h]

theorem mem_namesAt_withEntry (hplace : place.Titled) {e : Entry} (he : e.isDir = false) :
    name ∈ (t.withEntry place e).namesAt dir ↔
      name ∈ t.namesAt dir ∧ dir ≠ place ∨ place = dir.child name ∧ t.kindAt? dir = some true := by
  rw [withEntry, mem_namesAt_link hplace, namesAt_put, kindAt?_put, Entry.names_of_file he]
  by_cases h : dir = place
  · have hne : place ≠ dir.child name := h ▸ Place.ne_child dir name
    simp [h, h ▸ hne]
  · simp [h]

theorem nodup_namesAt_without (h : (t.namesAt dir).Nodup) :
    ((t.without place).namesAt dir).Nodup := by
  refine nodup_namesAt_unlink ?_
  rw [namesAt_erase]
  split_ifs
  · exact List.nodup_nil
  · exact h

theorem nodup_namesAt_withEntry {e : Entry} (he : e.isDir = false) (h : (t.namesAt dir).Nodup) :
    ((t.withEntry place e).namesAt dir).Nodup := by
  refine nodup_namesAt_link ?_
  rw [namesAt_put, Entry.names_of_file he]
  split_ifs
  · exact List.nodup_nil
  · exact h

/-- To list a place before its file is put there comes to the same. -/
theorem link_put_equiv (t : Tree) (place : Place) (e : Entry) :
    ((t.link place).put place e).Equiv (t.withEntry place e) := by
  intro other
  unfold withEntry link mapSiblings
  split
  · rename_i parent _ hparent _
    -- the parent is another place
    have hne : parent ≠ place := by
      rintro rfl
      exact absurd (parent?_length_lt hparent) (lt_irrefl _)
    simp only [find?_put, find?_mapChildren, if_neg hne]
    split_ifs with hplace hother
    · exact absurd (hother.symm.trans hplace) hne
    · rfl
    · rfl
    · rfl
  · rfl

/-- To add a file to a directory that is there is to put it there and to list it. -/
theorem addSizedFile_equiv {path : Path} (hplace : path.components = dir.child name)
    (hdir : t.kindAt? dir = some true) (len : UInt64) :
    (t.addSizedFile path len).Equiv (t.withEntry (dir.child name) (.file [] len)) := by
  unfold addSizedFile addEntry
  dsimp only
  rw [hplace, Place.parent?_child]
  dsimp only
  rw [ensureDir_of_kindAt? hdir]
  exact link_put_equiv _ _ _

/-- Adding a file changes nothing about what is to fail. -/
@[simp] theorem failing_addEntry (path : Path) (contents : Bytes) (len : UInt64) :
    (t.addEntry path contents len).failing = t.failing := by
  unfold addEntry
  dsimp only
  show (link _ _).failing = _
  rw [link, failing_mapSiblings]
  split
  · exact failing_ensureDir _ _
  · rfl

end Tree

end RunSweep
