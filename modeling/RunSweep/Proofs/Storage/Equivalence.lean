import RunSweep.Proofs.Storage.Operations

/-!
# Trees that hold the same

The order in which a tree keeps its entries is never seen: two trees are equivalent if every place holds
the same in both, lists of names included. Every change leads from equivalent trees to equivalent ones.
To copy a file into another directory and then remove the source is, up to equivalence, to move it.
-/

namespace RunSweep.Tree

/-- Two trees hold the same at every place. -/
def Equiv (t u : Tree) : Prop :=
  ∀ place, t.find? place = u.find? place

namespace Equiv

variable {t u v : Tree}

theorem refl (t : Tree) : t.Equiv t :=
  fun _ => rfl

theorem symm (h : t.Equiv u) : u.Equiv t :=
  fun place => (h place).symm

theorem trans (h : t.Equiv u) (h' : u.Equiv v) : t.Equiv v :=
  fun place => (h place).trans (h' place)

theorem kindAt?_eq (h : t.Equiv u) (place : Place) : t.kindAt? place = u.kindAt? place := by
  rw [kindAt?, kindAt?, h place]

theorem fileAt?_eq (h : t.Equiv u) (place : Place) : t.fileAt? place = u.fileAt? place := by
  rw [fileAt?, fileAt?, h place]

/-! ## Changes of equivalent trees -/

theorem put (h : t.Equiv u) (place : Place) (e : Entry) : (t.put place e).Equiv (u.put place e) := by
  intro other
  rw [find?_put, find?_put, h other]

theorem erase (h : t.Equiv u) (place : Place) : (t.erase place).Equiv (u.erase place) := by
  intro other
  rw [find?_erase, find?_erase, h other]

theorem mapChildren (h : t.Equiv u) (place : Place) (f : List String → List String) :
    (t.mapChildren place f).Equiv (u.mapChildren place f) := by
  intro other
  rw [find?_mapChildren, find?_mapChildren, h place, h other]

theorem mapSiblings (h : t.Equiv u) (place : Place) (f : String → List String → List String) :
    (t.mapSiblings place f).Equiv (u.mapSiblings place f) := by
  unfold Tree.mapSiblings
  split
  · exact h.mapChildren _ _
  · exact h

theorem without (h : t.Equiv u) (place : Place) : (t.without place).Equiv (u.without place) :=
  (h.erase place).mapSiblings place _

theorem withEntry (h : t.Equiv u) (place : Place) (e : Entry) :
    (t.withEntry place e).Equiv (u.withEntry place e) :=
  (h.put place e).mapSiblings place _

theorem ensureDir (h : t.Equiv u) (place : Place) : (t.ensureDir place).Equiv (u.ensureDir place) := by
  induction hn : place.length using Nat.strong_induction_on generalizing t u place with
  | _ n ih =>
      by_cases hsome : (t.find? place).isSome = true
      · rw [ensureDir_of_isSome hsome, ensureDir_of_isSome (h place ▸ hsome)]
        exact h
      have hsome' : ¬(u.find? place).isSome = true := h place ▸ hsome
      cases hparent : place.parent? with
      | none =>
          rw [ensureDir_of_no_parent hsome hparent, ensureDir_of_no_parent hsome' hparent]
          exact h.put place _
      | some parent =>
          rw [ensureDir_of_parent hsome hparent, ensureDir_of_parent hsome' hparent]
          -- the directories above have shorter places
          have hlt : parent.length < n := hn ▸ parent?_length_lt hparent
          exact (ih parent.length hlt (h.put place _) parent rfl).mapSiblings place _

end Equiv

/-! ## Moving a file in two ways -/

/-- A file lists nothing. -/
theorem mapChildren_file {e : Entry} (he : e.isDir = false) (f : List String → List String) :
    e.mapChildren f = e := by
  cases e with
  | file => rfl
  | dir => cases he

section Concat

variable (t : Tree) (dir other : Place) (bytes : Bytes)

theorem mapSiblings_concat (f : String → List String → List String) :
    t.mapSiblings (dir ++ [Component.name bytes]) f = t.mapChildren dir (f (Utf8.lossy bytes)) := by
  have hname : Place.name? (dir ++ [Component.name bytes]) = some (Utf8.lossy bytes) := by
    rw [Place.name?, List.getLast?_concat]
  unfold mapSiblings
  rw [Place.parent?_concat, hname]

theorem ne_concat : dir ≠ dir ++ [Component.name bytes] := by
  intro h
  simpa using congrArg List.length h

/-- What is found once a file has left a directory. -/
theorem find?_without_concat :
    (t.without (dir ++ [Component.name bytes])).find? other =
      if other = dir then
        (t.find? dir).map (Entry.mapChildren (·.filter (· != Utf8.lossy bytes)))
      else if other = dir ++ [Component.name bytes] then none
      else t.find? other := by
  rw [without, unlink, mapSiblings_concat, find?_mapChildren, find?_erase, find?_erase,
    if_neg (ne_concat dir bytes)]

/-- What is found once a file has come into a directory. -/
theorem find?_withEntry_concat (e : Entry) :
    (t.withEntry (dir ++ [Component.name bytes]) e).find? other =
      if other = dir then
        (t.find? dir).map (Entry.mapChildren fun children =>
          if children.contains (Utf8.lossy bytes) then children else children ++ [Utf8.lossy bytes])
      else if other = dir ++ [Component.name bytes] then some e
      else t.find? other := by
  rw [withEntry, link, mapSiblings_concat, find?_mapChildren, find?_put, find?_put,
    if_neg (ne_concat dir bytes)]

end Concat

/-- **To copy and remove is to move**, from one directory to another. -/
theorem withEntry_without_equiv (t : Tree) {dir dir' : Place} (hdirs : dir ≠ dir') (bytes bytes' : Bytes)
    {e : Entry} (he : e.isDir = false) :
    ((t.withEntry (dir' ++ [Component.name bytes']) e).without (dir ++ [Component.name bytes])).Equiv
      ((t.without (dir ++ [Component.name bytes])).withEntry (dir' ++ [Component.name bytes']) e) := by
  have hplaces : dir ++ [Component.name bytes] ≠ dir' ++ [Component.name bytes'] :=
    fun h => hdirs (List.append_inj_left' h rfl)
  intro place
  simp only [find?_without_concat, find?_withEntry_concat]
  by_cases hsource : place = dir
  -- the directory that is left may be what the file replaces
  · subst hsource
    rw [if_pos rfl, if_neg hdirs, if_neg hdirs, if_pos rfl]
    split_ifs
    · rw [Option.map_some, mapChildren_file he]
    · rfl
  by_cases htarget : place = dir'
  -- the directory that is come to may be where the file was
  · subst htarget
    rw [if_neg hsource, if_pos rfl, if_pos rfl, if_neg hsource]
    split_ifs <;> rfl
  rw [if_neg hsource, if_neg htarget, if_neg htarget, if_neg hsource]
  by_cases hfile : place = dir ++ [Component.name bytes]
  · rw [if_pos hfile, if_pos hfile, if_neg (hfile ▸ hplaces)]
  · rw [if_neg hfile, if_neg hfile]

end RunSweep.Tree
