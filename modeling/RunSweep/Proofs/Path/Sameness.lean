import RunSweep.Proofs.Path.Names

/-!
# Paths that say the same

What a path says is whether it starts at the root, and its names. Repeated and trailing slashes leave no
name, and `.` is one only where it begins a relative path; `..` is a name like others. Two paths have the
same steps exactly if they agree in both.
-/

namespace RunSweep.Path

/-- The names in a path: what stands before the first slash, unless that is nothing, and the later
stretches between slashes that are neither empty nor `.`. -/
def names (p : Path) : List Bytes :=
  match segments p.bytes with
  | [] => []
  | first :: later => (if first = [] then [] else [first]) ++ later.filter (!isIdle ·)

/-- The step that a name stands for. -/
def stepOfName (name : Bytes) : Component :=
  if name = [dot] then .current else step name

theorem stepOfName_injective : Function.Injective stepOfName := by
  intro a b h
  unfold stepOfName step at h
  split_ifs at h <;> simp_all

theorem stepOfName_ne_root (name : Bytes) : stepOfName name ≠ .root := by
  unfold stepOfName step
  split_ifs <;> simp

/-- Where `.` is not among them, stretches are the steps that they are anywhere. -/
theorem map_step (parts : List Bytes) :
    (parts.filter (!isIdle ·)).map step = (parts.filter (!isIdle ·)).map stepOfName := by
  refine List.map_congr_left fun name hmem => ?_
  have hne : name ≠ [dot] := by
    rintro rfl
    exact absurd (List.mem_filter.mp hmem).2 (by decide)
  rw [stepOfName, if_neg hne]

theorem segments_cons (b : UInt8) (rest : Bytes) :
    ∃ first later, segments rest = first :: later ∧
      segments (b :: rest) = if b = slash then [] :: first :: later else (b :: first) :: later := by
  obtain ⟨first, later, hrest⟩ := List.exists_cons_of_ne_nil (List.splitOn_ne_nil slash rest)
  refine ⟨first, later, hrest, ?_⟩
  rw [segments, List.splitOn_cons_eq_if_modifyHead, hrest]
  simp [List.modifyHead]

/-- Nothing stands before the first slash where a slash comes first, or nothing comes at all. -/
theorem first_eq_nil_iff {bytes first : Bytes} {later : List Bytes}
    (h : segments bytes = first :: later) :
    first = [] ↔ bytes = [] ∨ bytes.head? = some slash := by
  cases bytes with
  | nil =>
      rw [segments, List.splitOn_nil, List.cons.injEq] at h
      simp [← h.1]
  | cons b rest =>
      obtain ⟨front, more, -, hall⟩ := segments_cons b rest
      rw [h] at hall
      split_ifs at hall with hb
      · simp [(List.cons.inj hall).1, hb]
      · simp [(List.cons.inj hall).1, hb]

/-- **The steps of a path are the root, if it starts there, and its names.** -/
theorem components_eq_names (p : Path) :
    p.components = (if p.isAbsolute then [.root] else []) ++ p.names.map stepOfName := by
  obtain ⟨_ | ⟨b, rest⟩⟩ := p
  · rfl
  obtain ⟨first, later, hrest, hall⟩ := segments_cons b rest
  have hfirst := first_eq_nil_iff hrest
  rw [components_eq, split_cons, isAbsolute, names, hall]
  by_cases hroot : b = slash
  · rw [if_pos hroot, steps, hrest, map_step]
    simp [hroot, Start.components]
  have hrelative : ((b :: rest).head? == some slash) = false := by simp [hroot]
  rw [if_neg hroot, if_neg hroot, hrelative]
  by_cases hcurrent : b = dot ∧ first = []
  · have hdot : (b = dot && (rest == [] || rest.head? == some slash)) = true := by
      simp [hcurrent.1, hfirst.mp hcurrent.2]
    rw [if_pos hdot, steps, hrest, map_step]
    simp [hcurrent.1, hcurrent.2, Start.components, isIdle, stepOfName]
  · have hbare : ¬ (b = dot && (rest == [] || rest.head? == some slash)) = true := by
      simpa [hfirst] using hcurrent
    have hname : (!isIdle (b :: first)) = true := by
      simpa [isIdle, imp_iff_not_or] using hcurrent
    rw [if_neg hbare, steps, hall, if_neg hroot, map_step]
    simp [Start.components, List.filter_cons_of_pos, hname]

theorem sameSteps_iff {p q : Path} :
    p.sameSteps q = true ↔ p.isAbsolute = q.isAbsolute ∧ p.names = q.names := by
  have hnames (p : Path) : Component.root ∉ p.names.map stepOfName := by
    rw [List.mem_map]
    rintro ⟨name, -, hroot⟩
    exact stepOfName_ne_root name hroot
  rw [sameSteps, beq_iff_eq, components_eq_names, components_eq_names]
  constructor
  · intro h
    have hp := hnames p
    have hq := hnames q
    cases habsolute : p.isAbsolute <;> cases habsolute' : q.isAbsolute <;>
      simp only [habsolute, habsolute', if_true, if_false, Bool.false_eq_true, List.nil_append,
        List.singleton_append, List.cons.injEq, true_and] at h
    · exact ⟨rfl, stepOfName_injective.list_map h⟩
    · exact absurd (h ▸ List.mem_cons_self) hp
    · exact absurd (h ▸ List.mem_cons_self) hq
    · exact ⟨rfl, stepOfName_injective.list_map h⟩
  · rintro ⟨habsolute, hnames⟩
    rw [habsolute, hnames]

end RunSweep.Path
