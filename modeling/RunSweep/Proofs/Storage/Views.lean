import RunSweep.Proofs.Path.Names
import RunSweep.Storage.Tree

/-!
# What the places of a tree hold

A tree is looked at in three ways: `find?` says what a place holds, `fileAt?` which file it holds, and
`kindAt?` whether it holds a directory or a file. Lists of names change what is found only in the first
way. There is one lemma for each way and each change: an entry put, erased or listed, and a directory
made with those above it.
-/

namespace RunSweep

namespace Place

@[simp] theorem parent?_concat (place : Place) (bytes : Bytes) :
    parent? (place ++ [.name bytes]) = some place := by
  rw [parent?, List.getLast?_concat]
  exact congrArg some List.dropLast_concat

theorem parent?_eq_some {place parent : Place} (h : place.parent? = some parent) :
    ∃ last, place = parent ++ [last] := by
  unfold parent? at h
  split at h
  · cases h
  · cases h
  · rename_i last _ hlast
    obtain ⟨front, rfl⟩ := List.getLast?_eq_some_iff.mp hlast
    rw [List.dropLast_concat] at h
    exact ⟨last, by rw [Option.some.inj h]⟩

/-- The places above a place: its parent, the parent of that, and so on. -/
def above (place : Place) : List Place :=
  match _h : place.parent? with
  | some parent => parent :: above parent
  | none => []
termination_by place.length
decreasing_by exact Tree.parent?_length_lt ‹_›

theorem above_of_parent {place parent : Place} (h : place.parent? = some parent) :
    place.above = parent :: parent.above := by
  rw [above]
  split
  · rename_i parent' hparent
    rw [h, Option.some.injEq] at hparent
    rw [hparent]
  · rename_i hnone
    rw [h] at hnone
    cases hnone

end Place

/-- The entry with its children changed, if it is a directory. -/
def Entry.mapChildren (f : List String → List String) : Entry → Entry
  | dir children => dir (f children)
  | file contents len => file contents len

@[simp] theorem Entry.isDir_mapChildren (f : List String → List String) (e : Entry) :
    (e.mapChildren f).isDir = e.isDir := by
  cases e <;> rfl

namespace Tree

/-- The file at a place, if there is one. -/
def fileAt? (t : Tree) (place : Place) : Option Entry :=
  (t.find? place).filter (!·.isDir)

/-- Whether a place holds a directory or a file, if it holds anything. -/
def kindAt? (t : Tree) (place : Place) : Option Bool :=
  (t.find? place).map Entry.isDir

theorem find?_empty (place : Place) :
    empty.find? place = if place = [.root] then some (.dir []) else none := by
  unfold find? empty
  by_cases h : place = [.root]
  · rw [if_pos h, h, List.lookup_cons_self]
  · rw [if_neg h, List.lookup_cons, beq_false_of_ne h]
    rfl

/-! ## Writing an entry -/

theorem lookup_filter_self (entries : List (Place × Entry)) (place : Place) :
    (entries.filter (·.1 != place)).lookup place = none := by
  rw [List.lookup_eq_none_iff]
  intro p hp
  have hne := bne_iff_ne.mp (List.mem_filter.mp hp).2
  exact bne_iff_ne.mpr hne.symm

theorem lookup_filter_ne (entries : List (Place × Entry)) {place other : Place}
    (h : other ≠ place) :
    (entries.filter (·.1 != place)).lookup other = entries.lookup other := by
  induction entries with
  | nil => rfl
  | cons p rest ih =>
      obtain ⟨key, e⟩ := p
      by_cases hkey : key = place
      · have hother : (other == key) = false := by rw [hkey]; exact beq_false_of_ne h
        rw [List.filter_cons_of_neg (by simp [hkey]), ih, List.lookup_cons, hother]
      · rw [List.filter_cons_of_pos (by simp [hkey]), List.lookup_cons, List.lookup_cons, ih]

theorem find?_put (t : Tree) (place other : Place) (e : Entry) :
    (t.put place e).find? other = if other = place then some e else t.find? other := by
  unfold find? put
  split_ifs with h
  · rw [h, List.lookup_cons_self]
  · rw [List.lookup_cons, beq_false_of_ne h, lookup_filter_ne _ h]

theorem find?_erase (t : Tree) (place other : Place) :
    (t.erase place).find? other = if other = place then none else t.find? other := by
  unfold find? erase
  split_ifs with h
  · rw [h, lookup_filter_self]
  · exact lookup_filter_ne _ h

theorem find?_mapChildren (t : Tree) (place other : Place) (f : List String → List String) :
    (t.mapChildren place f).find? other =
      if other = place then (t.find? place).map (Entry.mapChildren f) else t.find? other := by
  unfold mapChildren
  split
  · rename_i children hdir
    rw [find?_put, hdir]
    rfl
  · rename_i hnone
    split_ifs with h
    · rw [h]
      rcases he : t.find? place with _ | (_ | children)
      · rfl
      · rfl
      · exact absurd he (hnone children)
    · rfl

@[simp] theorem failing_mapChildren (t : Tree) (place : Place) (f : List String → List String) :
    (t.mapChildren place f).failing = t.failing := by
  unfold mapChildren
  split <;> rfl

/-- Names are added and removed in the parent only. -/
theorem mapSiblings_eq (t : Tree) (place : Place) (f : String → List String → List String) :
    t.mapSiblings place f = t ∨
      ∃ parent name, place.parent? = some parent ∧ place.name? = some name ∧
        t.mapSiblings place f = t.mapChildren parent (f name) := by
  unfold mapSiblings
  split
  · rename_i parent name hparent hname
    exact .inr ⟨parent, name, hparent, hname, rfl⟩
  · exact .inl rfl

theorem find?_mapSiblings_of_ne (t : Tree) {place other : Place}
    (f : String → List String → List String) (h : place.parent? ≠ some other) :
    (t.mapSiblings place f).find? other = t.find? other := by
  rcases t.mapSiblings_eq place f with heq | ⟨parent, name, hparent, -, heq⟩
  · rw [heq]
  · rw [heq, find?_mapChildren, if_neg]
    rintro rfl
    exact h hparent

/-! ## Files -/

theorem fileAt?_eq_some {t : Tree} {place : Place} {e : Entry} :
    t.fileAt? place = some e ↔ t.find? place = some e ∧ e.isDir = false := by
  rw [fileAt?, Option.filter_eq_some_iff, Bool.not_eq_true']

/-- Where a file stands there is no directory. -/
theorem kindAt?_of_fileAt? {t : Tree} {place : Place} {e : Entry} (h : t.fileAt? place = some e) :
    t.kindAt? place = some false := by
  obtain ⟨hfind, hfile⟩ := fileAt?_eq_some.mp h
  rw [kindAt?, hfind, Option.map_some, hfile]

/-- What is no file is a directory. -/
theorem kindAt?_of_no_file {t : Tree} {place : Place} (hthere : t.kindAt? place ≠ none)
    (h : t.fileAt? place = none) : t.kindAt? place = some true := by
  unfold kindAt? at hthere ⊢
  unfold fileAt? at h
  rcases hfind : t.find? place with _ | (_ | _) <;> rw [hfind] at hthere h
  · exact absurd rfl hthere
  · cases h
  · rfl

/-- A place holds a file or none. -/
theorem fileAt?_cases (t : Tree) (place : Place) :
    t.fileAt? place = none ∨ ∃ contents len, t.fileAt? place = some (.file contents len) := by
  unfold fileAt?
  rcases t.find? place with _ | (⟨contents, len⟩ | _)
  · exact .inl rfl
  · exact .inr ⟨contents, len, rfl⟩
  · exact .inl rfl

/-- A directory has children. -/
theorem exists_children {t : Tree} {place : Place} (h : t.kindAt? place = some true) :
    ∃ children, t.find? place = some (.dir children) := by
  obtain ⟨_ | children, hfind, he⟩ := Option.map_eq_some_iff.mp h
  · cases he
  · exact ⟨children, hfind⟩

/-- Where a directory is there is no file. -/
theorem no_file_of_dir {t : Tree} {place : Place} (h : t.kindAt? place = some true) :
    t.fileAt? place = none := by
  cases hfile : t.fileAt? place with
  | none => rfl
  | some e => cases (kindAt?_of_fileAt? hfile).symm.trans h

@[simp] theorem fileAt?_empty (place : Place) : empty.fileAt? place = none := by
  unfold fileAt?
  rw [find?_empty]
  split_ifs <;> rfl

theorem fileAt?_put_file (t : Tree) (place other : Place) {e : Entry} (he : e.isDir = false) :
    (t.put place e).fileAt? other = if other = place then some e else t.fileAt? other := by
  unfold fileAt?
  rw [find?_put]
  split_ifs
  · rw [Option.filter_some, he]
    rfl
  · rfl

theorem fileAt?_erase (t : Tree) (place other : Place) :
    (t.erase place).fileAt? other = if other = place then none else t.fileAt? other := by
  unfold fileAt?
  rw [find?_erase]
  split_ifs <;> rfl

@[simp] theorem fileAt?_mapChildren (t : Tree) (place other : Place)
    (f : List String → List String) :
    (t.mapChildren place f).fileAt? other = t.fileAt? other := by
  unfold fileAt?
  rw [find?_mapChildren]
  split_ifs with h
  · rw [h]
    rcases t.find? place with _ | (_ | _) <;> rfl
  · rfl

@[simp] theorem fileAt?_mapSiblings (t : Tree) (place other : Place)
    (f : String → List String → List String) :
    (t.mapSiblings place f).fileAt? other = t.fileAt? other := by
  rcases t.mapSiblings_eq place f with heq | ⟨_, _, -, -, heq⟩
  · rw [heq]
  · rw [heq, fileAt?_mapChildren]

/-! ## Kinds -/

theorem kindAt?_put (t : Tree) (place other : Place) (e : Entry) :
    (t.put place e).kindAt? other = if other = place then some e.isDir else t.kindAt? other := by
  unfold kindAt?
  rw [find?_put]
  split_ifs <;> rfl

theorem kindAt?_erase_of_ne (t : Tree) {place other : Place} (h : other ≠ place) :
    (t.erase place).kindAt? other = t.kindAt? other := by
  unfold kindAt?
  rw [find?_erase, if_neg h]

@[simp] theorem kindAt?_mapChildren (t : Tree) (place other : Place)
    (f : List String → List String) :
    (t.mapChildren place f).kindAt? other = t.kindAt? other := by
  unfold kindAt?
  rw [find?_mapChildren]
  split_ifs with h
  · rw [h, Option.map_map]
    congr 1
    funext e
    exact Entry.isDir_mapChildren f e
  · rfl

@[simp] theorem kindAt?_mapSiblings (t : Tree) (place other : Place)
    (f : String → List String → List String) :
    (t.mapSiblings place f).kindAt? other = t.kindAt? other := by
  rcases t.mapSiblings_eq place f with heq | ⟨_, _, -, -, heq⟩
  · rw [heq]
  · rw [heq, kindAt?_mapChildren]

@[simp] theorem failing_mapSiblings (t : Tree) (place : Place)
    (f : String → List String → List String) :
    (t.mapSiblings place f).failing = t.failing := by
  rcases t.mapSiblings_eq place f with heq | ⟨_, _, -, -, heq⟩
  · rw [heq]
  · rw [heq, failing_mapChildren]

/-! ## Making directories -/

theorem ensureDir_of_isSome {t : Tree} {place : Place} (h : (t.find? place).isSome = true) :
    t.ensureDir place = t := by
  rw [ensureDir, if_pos h]

theorem ensureDir_of_parent {t : Tree} {place parent : Place} (h : ¬(t.find? place).isSome = true)
    (hparent : place.parent? = some parent) :
    t.ensureDir place = ((t.put place (.dir [])).ensureDir parent).link place := by
  rw [ensureDir, if_neg h]
  dsimp only
  split
  · rename_i parent' hparent'
    rw [hparent, Option.some.injEq] at hparent'
    rw [hparent']
  · rename_i hnone
    rw [hparent] at hnone
    cases hnone

theorem ensureDir_of_no_parent {t : Tree} {place : Place} (h : ¬(t.find? place).isSome = true)
    (hparent : place.parent? = none) :
    t.ensureDir place = t.put place (.dir []) := by
  rw [ensureDir, if_neg h]
  dsimp only
  split
  · rename_i hsome
    rw [hparent] at hsome
    cases hsome
  · rfl

/-- What holds of every tree with something at a place, passes to a tree with an empty directory put
where nothing is, and is kept by listing a place in its parent, holds of the tree with a directory made. -/
theorem ensureDir_induction {motive : Tree → Place → Tree → Prop}
    (present : ∀ t place, (t.find? place).isSome = true → motive t place t)
    (top : ∀ t place, t.find? place = none → place.parent? = none →
      motive t place (t.put place (.dir [])))
    (below : ∀ t place parent made, t.find? place = none → place.parent? = some parent →
      motive (t.put place (.dir [])) parent made → motive t place (made.link place))
    (t : Tree) (place : Place) : motive t place (t.ensureDir place) := by
  induction hn : place.length using Nat.strong_induction_on generalizing t place with
  | _ n ih =>
      by_cases hsome : (t.find? place).isSome = true
      · rw [ensureDir_of_isSome hsome]
        exact present t place hsome
      have hnone : t.find? place = none := Option.not_isSome_iff_eq_none.mp hsome
      cases hparent : place.parent? with
      | none =>
          rw [ensureDir_of_no_parent hsome hparent]
          exact top t place hnone hparent
      | some parent =>
          rw [ensureDir_of_parent hsome hparent]
          -- the parent has a shorter place
          refine below t place parent _ hnone hparent (ih parent.length ?_ _ _ rfl)
          exact hn ▸ parent?_length_lt hparent

@[simp] theorem failing_ensureDir (t : Tree) (place : Place) :
    (t.ensureDir place).failing = t.failing :=
  ensureDir_induction (motive := fun t _ made => made.failing = t.failing)
    (fun _ _ _ => rfl) (fun _ _ _ _ => rfl)
    (fun _ _ _ _ _ _ ih => (failing_mapSiblings _ _ _).trans ih) t place

/-- Making directories touches no file. -/
@[simp] theorem fileAt?_ensureDir (t : Tree) (place other : Place) :
    (t.ensureDir place).fileAt? other = t.fileAt? other := by
  -- an empty directory where nothing was hides no file
  have hput : ∀ (t : Tree) (place : Place), t.find? place = none →
      (t.put place (.dir [])).fileAt? other = t.fileAt? other := by
    intro t place hnone
    unfold fileAt?
    rw [find?_put]
    split_ifs with h
    · rw [h, hnone]
      rfl
    · rfl
  refine ensureDir_induction (motive := fun t _ made => made.fileAt? other = t.fileAt? other)
    (fun _ _ _ => rfl) (fun t place hnone _ => hput t place hnone) ?_ t place
  intro t place parent made hnone _ ih
  rw [link, fileAt?_mapSiblings, ih, hput t place hnone]

/-- Making a directory changes nothing but the place and those above it. -/
theorem find?_ensureDir_of_not_above (t : Tree) {place other : Place} (h : ¬other <+: place) :
    (t.ensureDir place).find? other = t.find? other := by
  have hne {other place : Place} (h : ¬other <+: place) : other ≠ place :=
    fun heq => h (heq ▸ List.prefix_rfl)
  refine ensureDir_induction
    (motive := fun t place made => ¬other <+: place → made.find? other = t.find? other)
    (fun _ _ _ _ => rfl) (fun t place _ _ hother => ?_) ?_ t place h
  · rw [find?_put, if_neg (hne hother)]
  · intro t place parent made _ hparent ih hother
    obtain ⟨last, rfl⟩ := Place.parent?_eq_some hparent
    -- what is not above the place is not above its parent either, nor is it the parent
    have hbelow : ¬other <+: parent := fun hpre => hother (hpre.trans (List.prefix_append _ _))
    have hparent_ne : Place.parent? (parent ++ [last]) ≠ some other := by
      rw [hparent]
      exact fun heq => hne hbelow (Option.some.inj heq).symm
    rw [link, find?_mapSiblings_of_ne _ _ hparent_ne, ih hbelow, find?_put, if_neg (hne hother)]

/-- What there is stays a directory or a file. -/
theorem kindAt?_ensureDir_of_some {t : Tree} {place other : Place} {kind : Bool}
    (h : t.kindAt? other = some kind) : (t.ensureDir place).kindAt? other = some kind := by
  -- the new directory stands where nothing was, and so somewhere else
  have hput {t : Tree} {place : Place} (hnone : t.find? place = none)
      (h : t.kindAt? other = some kind) : (t.put place (.dir [])).kindAt? other = some kind := by
    have hne : other ≠ place := by
      rintro rfl
      rw [kindAt?, hnone] at h
      cases h
    rw [kindAt?_put, if_neg hne, h]
  refine ensureDir_induction
    (motive := fun t _ made => t.kindAt? other = some kind → made.kindAt? other = some kind)
    (fun _ _ _ h => h) (fun _ _ hnone _ h => hput hnone h) ?_ t place h
  intro t place parent made hnone _ ih h
  rw [link, kindAt?_mapSiblings]
  exact ih (hput hnone h)

/-- Where nothing was, a directory is made; what was there stays what it is. -/
theorem kindAt?_ensureDir_self (t : Tree) (place : Place) :
    (t.ensureDir place).kindAt? place = some ((t.kindAt? place).getD true) := by
  have hput : (t.put place (.dir [])).kindAt? place = some true := by
    rw [kindAt?_put, if_pos rfl]
    rfl
  by_cases hsome : (t.find? place).isSome = true
  · obtain ⟨e, he⟩ := Option.isSome_iff_exists.mp hsome
    rw [ensureDir_of_isSome hsome, kindAt?, he]
    rfl
  have hnone : t.kindAt? place = none := by
    rw [kindAt?, Option.not_isSome_iff_eq_none.mp hsome, Option.map_none]
  rw [hnone, Option.getD_none]
  cases hparent : place.parent? with
  | none => rw [ensureDir_of_no_parent hsome hparent, hput]
  | some parent =>
      rw [ensureDir_of_parent hsome hparent, link, kindAt?_mapSiblings]
      -- making the directories above leaves the new one in place
      exact kindAt?_ensureDir_of_some hput

/-- Where there is something, nothing is made. -/
theorem ensureDir_of_kindAt? {t : Tree} {place : Place} {kind : Bool}
    (h : t.kindAt? place = some kind) : t.ensureDir place = t := by
  apply ensureDir_of_isSome
  rw [← Option.isSome_map, show (t.find? place).map Entry.isDir = some kind from h]
  rfl

/-- Where there is no file, a directory comes out. -/
theorem kindAt?_ensureDir_of_not_file {t : Tree} {place : Place}
    (h : t.kindAt? place ≠ some false) : (t.ensureDir place).kindAt? place = some true := by
  rw [kindAt?_ensureDir_self]
  rcases hkind : t.kindAt? place with _ | _ | _
  · rfl
  · exact absurd hkind h
  · rfl

/-- **A directory that is made was missing**, and is the place itself or above it. -/
theorem kindAt?_ensureDir_eq_true {t : Tree} {place other : Place}
    (h : (t.ensureDir place).kindAt? other = some true) :
    t.kindAt? other = some true ∨ t.find? other = none ∧ other ∈ place :: place.above := by
  have hput {t : Tree} {place : Place} (hnone : t.find? place = none)
      (h : (t.put place (.dir [])).kindAt? other = some true) :
      t.kindAt? other = some true ∨ t.find? other = none ∧ other = place := by
    rw [kindAt?_put] at h
    split_ifs at h with heq
    · exact .inr ⟨heq ▸ hnone, heq⟩
    · exact .inl h
  refine ensureDir_induction (motive := fun t place made => made.kindAt? other = some true →
    t.kindAt? other = some true ∨ t.find? other = none ∧ other ∈ place :: place.above)
    (fun _ _ _ h => .inl h) (fun t place hnone _ h => ?_) ?_ t place h
  · exact (hput hnone h).imp_right fun ⟨hmissing, heq⟩ => ⟨hmissing, heq ▸ List.mem_cons_self⟩
  · intro t place parent made hnone hparent ih h
    rw [link, kindAt?_mapSiblings] at h
    rw [Place.above_of_parent hparent]
    rcases ih h with hkind | ⟨hmissing, habove⟩
    · exact (hput hnone hkind).imp_right fun ⟨hmissing, heq⟩ =>
        ⟨hmissing, heq ▸ List.mem_cons_self⟩
    -- what is missing while the place is there was missing before
    · rw [find?_put] at hmissing
      split_ifs at hmissing
      exact .inr ⟨hmissing, List.mem_cons_of_mem _ habove⟩

theorem kindAt?_ensureDir_of_not_above (t : Tree) {place other : Place} (h : ¬other <+: place) :
    (t.ensureDir place).kindAt? other = t.kindAt? other := by
  rw [kindAt?, find?_ensureDir_of_not_above t h, kindAt?]

end Tree

end RunSweep
