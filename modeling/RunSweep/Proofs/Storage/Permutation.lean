import RunSweep.Proofs.Storage.Listings

/-!
# Trees that list in another order

A directory keeps its names in the order in which they came. Two trees are `Permuted` if they hold the
same and refuse the same, but for that order. Whatever is asked of an operation before it is let through
has one answer in both, and every change leads from permuted trees to permuted ones: where a list of names
is changed, the change must not depend on its order.
-/

namespace RunSweep

/-- **Entries that are the same** but for the order in which a directory keeps its names. -/
inductive Entry.Permuted : Entry → Entry → Prop where
  | file (contents : Bytes) (len : UInt64) : Permuted (.file contents len) (.file contents len)
  | dir {children children' : List String} :
      children.Perm children' → Permuted (.dir children) (.dir children')

namespace Entry.Permuted

variable {e e' : Entry}

theorem refl (e : Entry) : e.Permuted e := by
  cases e with
  | file contents len => exact .file contents len
  | dir children => exact .dir (.refl children)

theorem isDir_eq (h : e.Permuted e') : e.isDir = e'.isDir := by
  cases h <;> rfl

theorem metadata_eq (h : e.Permuted e') : e.metadata = e'.metadata := by
  cases h <;> rfl

theorem names_perm (h : e.Permuted e') : e.names.Perm e'.names := by
  cases h with
  | file => exact .nil
  | dir hperm => exact hperm

theorem mapChildren {f : List String → List String}
    (hf : ∀ {names names' : List String}, names.Perm names' → (f names).Perm (f names'))
    (h : e.Permuted e') : (e.mapChildren f).Permuted (e'.mapChildren f) := by
  cases h with
  | file contents len => exact .file contents len
  | dir hperm => exact .dir (hf hperm)

end Entry.Permuted

namespace Tree

/-- **Trees that differ in the order of names only**: at every place both hold nothing, the same file, or
directories that list the same names; and they refuse the same operations. -/
structure Permuted (t u : Tree) : Prop where
  entries : ∀ place, Option.Rel Entry.Permuted (t.find? place) (u.find? place)
  refuses : ∀ operation place, t.refuses operation place = u.refuses operation place

namespace Permuted

variable {t u : Tree}

/-- A place holds nothing in both trees, or entries that are permuted. -/
theorem entry_cases (h : t.Permuted u) (place : Place) :
    (t.find? place = none ∧ u.find? place = none) ∨
      ∃ e e', t.find? place = some e ∧ u.find? place = some e' ∧ e.Permuted e' := by
  have hentry := h.entries place
  generalize t.find? place = found at hentry ⊢
  generalize u.find? place = found' at hentry ⊢
  cases hentry with
  | some he => exact .inr ⟨_, _, rfl, rfl, he⟩
  | none => exact .inl ⟨rfl, rfl⟩

/-! ## What is the same in permuted trees -/

theorem kindAt?_eq (h : t.Permuted u) (place : Place) : t.kindAt? place = u.kindAt? place := by
  unfold kindAt?
  rcases h.entry_cases place with ⟨ht, hu⟩ | ⟨e, e', ht, hu, he⟩
  · rw [ht, hu]
  · rw [ht, hu, Option.map_some, Option.map_some, he.isDir_eq]

theorem isDir_eq (h : t.Permuted u) (path : Path) : t.isDir path = u.isDir path := by
  rw [Tree.isDir_eq, Tree.isDir_eq, h.kindAt?_eq]

theorem check_eq (h : t.Permuted u) (operation : Operation) (path : Path) :
    t.check operation path = u.check operation path := by
  rw [Tree.check_eq, Tree.check_eq, h.refuses]

theorem namesAt_perm (h : t.Permuted u) (dir : Place) : (t.namesAt dir).Perm (u.namesAt dir) := by
  unfold namesAt
  rcases h.entry_cases dir with ⟨ht, hu⟩ | ⟨e, e', ht, hu, he⟩
  · rw [ht, hu]
  · rw [ht, hu]
    exact he.names_perm

theorem metadata_eq (h : t.Permuted u) (path : Path) : t.metadata path = u.metadata path := by
  unfold Tree.metadata
  rw [h.check_eq]
  rcases h.entry_cases path.components with ⟨ht, hu⟩ | ⟨e, e', ht, hu, he⟩
  · rw [ht, hu]
  · simp only [ht, hu, he.metadata_eq]

theorem requireFile_eq (h : t.Permuted u) (path : Path) :
    t.requireFile path = u.requireFile path := by
  unfold requireFile
  rcases h.entry_cases path.components with ⟨ht, hu⟩ | ⟨e, e', ht, hu, he⟩
  · rw [ht, hu]
  · rw [ht, hu]
    cases he <;> rfl

theorem requireParent_eq (h : t.Permuted u) (path : Path) :
    t.requireParent path = u.requireParent path := by
  unfold requireParent
  simp only [h.isDir_eq]

theorem allowMove_eq (h : t.Permuted u) (operation : Operation) (source target : Path) :
    t.allowMove operation source target = u.allowMove operation source target := by
  unfold allowMove
  rw [h.check_eq, h.requireParent_eq, h.requireFile_eq]

theorem allowRemoval_eq (h : t.Permuted u) (path : Path) :
    t.allowRemoval path = u.allowRemoval path := by
  unfold allowRemoval
  rw [h.check_eq, h.requireFile_eq]

theorem allowDir_eq (h : t.Permuted u) (path : Path) : t.allowDir path = u.allowDir path := by
  rw [Tree.allowDir_eq, Tree.allowDir_eq, h.refuses, h.kindAt?_eq]

/-- A directory that cannot be listed cannot be listed in either tree, for one reason. -/
theorem readDir_eq_error_iff (h : t.Permuted u) {path : Path} {fault : Fault} :
    t.readDir path = .error fault ↔ u.readDir path = .error fault := by
  unfold readDir
  rw [h.check_eq]
  rcases u.check .readDir path with refused | ⟨⟩
  · exact Iff.rfl
  rcases h.entry_cases path.components with ⟨ht, hu⟩ | ⟨e, e', ht, hu, he⟩
  · rw [ht, hu]
  · rw [ht, hu]
    cases he with
    | file => exact Iff.rfl
    | dir => simp [bind, Except.bind, pure, Except.pure]

/-! ## Changes of permuted trees -/

theorem put (h : t.Permuted u) (place : Place) {e e' : Entry} (he : e.Permuted e') :
    (t.put place e).Permuted (u.put place e') where
  entries other := by
    rw [find?_put, find?_put]
    split_ifs
    · exact .some he
    · exact h.entries other
  refuses := h.refuses

theorem erase (h : t.Permuted u) (place : Place) : (t.erase place).Permuted (u.erase place) where
  entries other := by
    rw [find?_erase, find?_erase]
    split_ifs
    · exact .none
    · exact h.entries other
  refuses := h.refuses

theorem mapChildren {f : List String → List String}
    (hf : ∀ {names names' : List String}, names.Perm names' → (f names).Perm (f names'))
    (h : t.Permuted u) (place : Place) :
    (t.mapChildren place f).Permuted (u.mapChildren place f) where
  entries other := by
    rw [find?_mapChildren, find?_mapChildren]
    split_ifs
    · rcases h.entry_cases place with ⟨ht, hu⟩ | ⟨e, e', ht, hu, he⟩
      · rw [ht, hu]
        exact .none
      · rw [ht, hu]
        exact .some (he.mapChildren hf)
    · exact h.entries other
  refuses operation other := by
    rw [Tree.refuses, Tree.refuses, failing_mapChildren, failing_mapChildren]
    exact h.refuses operation other

theorem mapSiblings {f : String → List String → List String}
    (hf : ∀ name {names names' : List String}, names.Perm names' → (f name names).Perm (f name names'))
    (h : t.Permuted u) (place : Place) :
    (t.mapSiblings place f).Permuted (u.mapSiblings place f) := by
  unfold Tree.mapSiblings
  split
  · exact h.mapChildren (hf _) _
  · exact h

/-- Whether a name is there does not depend on the order, and it comes behind all others. -/
theorem link (h : t.Permuted u) (place : Place) : (t.link place).Permuted (u.link place) := by
  refine h.mapSiblings (fun name names names' hperm => ?_) place
  rw [hperm.contains_eq]
  split_ifs
  · exact hperm
  · exact hperm.append_right [name]

theorem unlink (h : t.Permuted u) (place : Place) : (t.unlink place).Permuted (u.unlink place) :=
  h.mapSiblings (fun name _ _ hperm => hperm.filter (· != name)) place

theorem without (h : t.Permuted u) (place : Place) : (t.without place).Permuted (u.without place) :=
  (h.erase place).unlink place

theorem withEntry (h : t.Permuted u) (place : Place) (e : Entry) :
    (t.withEntry place e).Permuted (u.withEntry place e) :=
  (h.put place (.refl e)).link place

theorem ensureDir (h : t.Permuted u) (place : Place) :
    (t.ensureDir place).Permuted (u.ensureDir place) := by
  induction hn : place.length using Nat.strong_induction_on generalizing t u place with
  | _ n ih =>
      cases hkind : t.kindAt? place with
      | some kind =>
          rw [ensureDir_of_kindAt? hkind, ensureDir_of_kindAt? ((h.kindAt?_eq place).symm.trans hkind)]
          exact h
      | none =>
          have hmissing {v : Tree} (hv : v.kindAt? place = none) : ¬(v.find? place).isSome = true := by
            rw [kindAt?, Option.map_eq_none_iff] at hv
            simp [hv]
          have ht := hmissing hkind
          have hu := hmissing ((h.kindAt?_eq place).symm.trans hkind)
          have hput := h.put place (Entry.Permuted.refl (.dir []))
          cases hparent : place.parent? with
          | none =>
              rw [ensureDir_of_no_parent ht hparent, ensureDir_of_no_parent hu hparent]
              exact hput
          | some parent =>
              rw [ensureDir_of_parent ht hparent, ensureDir_of_parent hu hparent]
              -- the directories above have shorter places
              have hlt : parent.length < n := hn ▸ parent?_length_lt hparent
              exact (ih parent.length hlt hput parent rfl).link place

/-- To put the names of a directory in another order is to permute the tree. -/
theorem of_mapChildren (t : Tree) (dir : Place) {f : List String → List String}
    (hf : ∀ names : List String, names.Perm (f names)) : t.Permuted (t.mapChildren dir f) where
  entries place := by
    rw [find?_mapChildren]
    split_ifs with hplace
    · rw [hplace]
      rcases t.find? dir with _ | (⟨contents, len⟩ | names)
      · exact .none
      · exact .some (.file contents len)
      · exact .some (.dir (hf names))
    · rcases t.find? place with _ | e
      · exact .none
      · exact .some (.refl e)
  refuses operation place := by
    rw [Tree.refuses, Tree.refuses, failing_mapChildren]

/-- A tree that differs from a tidy one in the order of names is tidy. -/
theorem tidy (h : t.Permuted u) (ht : t.Tidy) : u.Tidy := by
  intro place children hdir
  rcases h.entry_cases place with ⟨-, hnone⟩ | ⟨e, e', hfind, hfind', he⟩
  · cases hdir.symm.trans hnone
  obtain rfl := Option.some.inj (hfind'.symm.trans hdir)
  cases he with
  | dir hperm =>
      obtain ⟨hnodup, hnames⟩ := ht place _ hfind
      exact ⟨hperm.nodup_iff.mp hnodup, fun name hmem => hnames name (hperm.mem_iff.mpr hmem)⟩

end Permuted

end Tree

end RunSweep
