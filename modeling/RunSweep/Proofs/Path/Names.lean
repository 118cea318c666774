import Mathlib.Data.List.DropRight
import RunSweep.Path.Basic
import RunSweep.Proofs.Text.Encoding

/-!
# Names in paths

A path continued by a name has one step more, is called by that name, and has the steps of the path
itself as its parent's, whichever way the path is written: `join_cases` lists the ways. Conversely, what
stands as a name in a path is one, and is a text if the path is.
-/

namespace RunSweep.Path

/-- A name as a path's step: something is written, without a slash, and it is neither `.` nor `..`. -/
structure IsName (bytes : Bytes) : Prop where
  ne_nil : bytes ≠ []
  no_slash : slash ∉ bytes
  ne_dot : bytes ≠ [dot]
  ne_dots : bytes ≠ [dot, dot]

/-- The steps that bytes without a start stand for. -/
def steps (bytes : Bytes) : List Component :=
  ((segments bytes).filter (!isIdle ·)).map step

theorem components_eq (p : Path) : p.components = p.split.1.components ++ steps p.split.2 := rfl

theorem split_cons (b : UInt8) (rest : Bytes) :
    split ⟨b :: rest⟩ =
      if b = slash then (.root, rest)
      else if b = dot && (rest == [] || rest.head? == some slash) then (.current, rest)
      else (.bare, b :: rest) := rfl

theorem no_slash_of_mem_segments {bytes segment : Bytes} (h : segment ∈ segments bytes) :
    slash ∉ segment := by
  unfold segments at h
  induction bytes generalizing segment with
  | nil =>
      rw [List.splitOn_nil, List.mem_singleton] at h
      rw [h]
      exact List.not_mem_nil
  | cons b rest ih =>
      rw [List.splitOn_cons_eq_if_modifyHead] at h
      split_ifs at h with hb
      · rcases List.mem_cons.mp h with rfl | h
        · exact List.not_mem_nil
        · exact ih h
      · obtain ⟨first, others, hsplit⟩ := List.exists_cons_of_ne_nil (List.splitOn_ne_nil slash rest)
        rw [hsplit] at h ih
        rcases List.mem_cons.mp h with rfl | h
        · have hne : slash ≠ b := fun h => hb (by rw [h, beq_self_eq_true])
          exact List.not_mem_cons_of_ne_of_not_mem hne (ih List.mem_cons_self)
        · exact ih (List.mem_cons_of_mem _ h)

theorem isIdle_iff {segment : Bytes} : isIdle segment = true ↔ segment = [] ∨ segment = [dot] := by
  rw [isIdle, Bool.or_eq_true, beq_iff_eq, beq_iff_eq]

namespace IsName

theorem not_isIdle {bytes : Bytes} (h : IsName bytes) : isIdle bytes = false := by
  rw [← Bool.not_eq_true, isIdle_iff]
  rintro (hnil | hdot)
  · exact h.ne_nil hnil
  · exact h.ne_dot hdot

theorem segments_eq {bytes : Bytes} (h : IsName bytes) : segments bytes = [bytes] :=
  List.splitOn_eq_singleton h.no_slash

theorem steps_eq {bytes : Bytes} (h : IsName bytes) : steps bytes = [.name bytes] := by
  rw [steps, h.segments_eq, List.filter_cons_of_pos (by rw [h.not_isIdle]; rfl), List.filter_nil,
    List.map_singleton, step, if_neg h.ne_dots]

/-- A name alone has no start. -/
theorem split_eq {bytes : Bytes} (h : IsName bytes) : split ⟨bytes⟩ = (.bare, bytes) := by
  obtain ⟨b, rest, rfl⟩ := List.exists_cons_of_ne_nil h.ne_nil
  have hb : b ≠ slash := fun hb => h.no_slash (hb ▸ List.mem_cons_self)
  rw [split_cons, if_neg hb, if_neg]
  rw [Bool.and_eq_true, decide_eq_true_eq, Bool.or_eq_true, beq_iff_eq, beq_iff_eq]
  rintro ⟨rfl, rfl | hhead⟩
  · exact h.ne_dot rfl
  · exact h.no_slash (List.mem_cons_of_mem _ (List.mem_of_head? hhead))

end IsName

/-! ## What stands behind a slash -/

theorem split_append_slash {front : Bytes} (hfront : front ≠ []) (rest : Bytes) :
    split ⟨front ++ slash :: rest⟩ =
      ((split ⟨front⟩).1, (split ⟨front⟩).2 ++ slash :: rest) := by
  obtain ⟨b, more, rfl⟩ := List.exists_cons_of_ne_nil hfront
  have hstart : (more ++ slash :: rest == [] || (more ++ slash :: rest).head? == some slash) =
      (more == [] || more.head? == some slash) := by
    cases more with
    | nil => simp
    | cons c cs => simp
  rw [List.cons_append, split_cons, split_cons, hstart]
  split_ifs <;> rfl

theorem steps_append_slash (front rest : Bytes) :
    steps (front ++ slash :: rest) = steps front ++ steps rest := by
  rw [steps, segments, List.splitOn_append_cons_self, List.filter_append, List.map_append]
  rfl

theorem components_append_slash {front : Bytes} (hfront : front ≠ []) (rest : Bytes) :
    components ⟨front ++ slash :: rest⟩ = components ⟨front⟩ ++ steps rest := by
  rw [components_eq, split_append_slash hfront, steps_append_slash, ← List.append_assoc]
  rfl

/-- **How a path is continued by a name**: alone, behind the root, or behind a slash that follows other
bytes with the same steps. -/
theorem join_cases (p : Path) {bytes : Bytes} (h : IsName bytes) :
    (p.bytes = [] ∧ p.join bytes = ⟨bytes⟩) ∨
      (p.bytes = [slash] ∧ p.join bytes = ⟨slash :: bytes⟩) ∨
        ∃ front, front ≠ [] ∧ components ⟨front⟩ = p.components ∧
          p.join bytes = ⟨front ++ slash :: bytes⟩ := by
  have hhead : bytes.head? ≠ some slash := fun hb => h.no_slash (List.mem_of_head? hb)
  unfold join
  by_cases hnil : p.bytes = []
  · left
    rw [if_pos (by rw [hnil, List.isEmpty_nil, Bool.or_true])]
    exact ⟨hnil, rfl⟩
  right
  rw [if_neg (by
    rw [Bool.or_eq_true, beq_iff_eq, List.isEmpty_iff]
    exact fun hor => hor.elim hhead hnil)]
  split_ifs with hlast
  -- the path ends in a slash
  · obtain ⟨front, hfront⟩ := List.getLast?_eq_some_iff.mp (beq_iff_eq.mp hlast)
    rw [hfront, List.append_assoc, List.singleton_append]
    by_cases hroot : front = []
    · left
      rw [hroot]
      exact ⟨rfl, rfl⟩
    · right
      refine ⟨front, hroot, ?_, rfl⟩
      rw [show p = ⟨front ++ slash :: []⟩ by rw [← hfront], components_append_slash hroot]
      exact (List.append_nil _).symm
  · exact .inr ⟨p.bytes, hnil, rfl, rfl⟩

/-- **A path continued by a name has one step more.** -/
theorem components_join (p : Path) {bytes : Bytes} (h : IsName bytes) :
    (p.join bytes).components = p.components ++ [.name bytes] := by
  obtain ⟨hnil, hjoin⟩ | ⟨hroot, hjoin⟩ | ⟨front, hfront, hsteps, hjoin⟩ := p.join_cases h
  · obtain rfl : p = ⟨[]⟩ := by rw [← hnil]
    rw [hjoin, components_eq, h.split_eq, h.steps_eq]
    rfl
  · obtain rfl : p = ⟨[slash]⟩ := by rw [← hroot]
    rw [hjoin]
    show [.root] ++ steps bytes = _
    rw [h.steps_eq]
    rfl
  · rw [hjoin, components_append_slash hfront, h.steps_eq, hsteps]

theorem fileName?_join (p : Path) {bytes : Bytes} (h : IsName bytes) :
    (p.join bytes).fileName? = some bytes := by
  rw [fileName?, components_join p h, List.getLast?_concat]

/-- The last step as text, if it is a name. -/
def shownName? (p : Path) : Option String :=
  p.fileName?.map Utf8.lossy

theorem shownName?_join (p : Path) {name : String} (h : IsName (Utf8.encode name)) :
    (p.join (Utf8.encode name)).shownName? = some name := by
  rw [shownName?, fileName?_join p h, Option.map_some, Utf8.lossy_encode]

/-! ## The parent of a continued path -/

theorem bytes_eq_split (p : Path) : p.bytes = p.split.1.bytes ++ p.split.2 := by
  obtain ⟨_ | ⟨b, rest⟩⟩ := p
  · rfl
  · rw [split_cons]
    split_ifs with hslash hdot
    · rw [hslash]
      rfl
    · rw [Bool.and_eq_true, decide_eq_true_eq] at hdot
      rw [hdot.1]
      rfl
    · rfl

theorem steps_eq_nil {bytes : Bytes} (h : ∀ segment ∈ segments bytes, isIdle segment = true) :
    steps bytes = [] := by
  rw [steps, List.filter_eq_nil_iff.mpr, List.map_nil]
  intro segment hmem
  rw [h segment hmem]
  exact Bool.false_ne_true

theorem components_start (start : Start) : components ⟨start.bytes⟩ = start.components := by
  cases start <;> decide

theorem intercalate_append {front back : List Bytes} (hfront : front ≠ []) (hback : back ≠ []) :
    [slash].intercalate (front ++ back) =
      [slash].intercalate front ++ slash :: [slash].intercalate back := by
  induction front with
  | nil => exact absurd rfl hfront
  | cons segment more ih =>
      by_cases hmore : more = []
      · rw [hmore, List.singleton_append, List.intercalate_cons_of_ne_nil hback,
          List.intercalate_singleton, List.append_assoc, List.singleton_append]
      · rw [List.cons_append, List.intercalate_cons_of_ne_nil (List.append_ne_nil_of_left_ne_nil hmore _),
          List.intercalate_cons_of_ne_nil hmore, ih hmore]
        simp only [List.append_assoc]

/-- What stands before a slash behind the start of a path, together with the start. A bare path does not
begin with a slash. -/
theorem eq_of_split_append {p : Path} {front rest : Bytes} (h : p.split.2 = front ++ slash :: rest) :
    p.split.1.bytes ++ front ≠ [] ∧ p = ⟨(p.split.1.bytes ++ front) ++ slash :: rest⟩ := by
  have hp : p = ⟨(p.split.1.bytes ++ front) ++ slash :: rest⟩ := by
    rw [List.append_assoc, ← h, ← bytes_eq_split]
  refine ⟨fun hnil => ?_, hp⟩
  rw [hnil, List.nil_append] at hp
  have hroot : p.split.1 = .root := by rw [hp, split_cons, if_pos rfl]
  rw [hroot] at hnil
  exact absurd hnil (List.cons_ne_nil _ _)

/-- Taken alone, it has the same start. -/
theorem split_front {p : Path} {front rest : Bytes} (h : p.split.2 = front ++ slash :: rest) :
    split ⟨p.split.1.bytes ++ front⟩ = (p.split.1, front) := by
  obtain ⟨hne, hp⟩ := eq_of_split_append h
  have hboth := split_append_slash hne rest
  rw [← hp] at hboth
  obtain ⟨hstart, hbody⟩ := Prod.ext_iff.mp hboth
  refine Prod.ext hstart.symm ?_
  exact (List.append_cancel_right (h.symm.trans hbody)).symm

/-- Idle segments at the end of a path do not count. -/
theorem components_trimIdle (p : Path) :
    components ⟨p.split.1.bytes ++ [slash].intercalate (trimIdle (segments p.split.2))⟩ =
      p.components := by
  have hbytes := bytes_eq_split p
  -- the segments are those that are kept and, behind them, those that are cut off
  have hcut : trimIdle (segments p.split.2) ++ (segments p.split.2).rtakeWhile isIdle =
      segments p.split.2 := List.rdropWhile_append_rtakeWhile
  have hidle : ∀ segment ∈ (segments p.split.2).rtakeWhile isIdle, isIdle segment = true :=
    fun _ hmem => List.mem_rtakeWhile_imp hmem
  have hall : [slash].intercalate (segments p.split.2) = p.split.2 := List.intercalate_splitOn slash
  generalize trimIdle (segments p.split.2) = kept at hcut ⊢
  generalize (segments p.split.2).rtakeWhile isIdle = idle at hcut hidle
  by_cases hnone : idle = []
  · rw [hnone, List.append_nil] at hcut
    rw [hcut, hall, ← hbytes]
  by_cases hkept : kept = []
  · rw [hkept, List.nil_append] at hcut
    rw [hkept, List.intercalate_nil, List.append_nil, components_start, components_eq,
      steps_eq_nil (hcut ▸ hidle), List.append_nil]
  -- what is cut off stands behind a slash and is idle
  · have hrest : p.split.2 = [slash].intercalate kept ++ slash :: [slash].intercalate idle := by
      rw [← hall, ← hcut, intercalate_append hkept hnone]
    have hsegments : segments ([slash].intercalate idle) = idle := by
      refine List.splitOn_intercalate slash (fun segment hmem => ?_) hnone
      exact no_slash_of_mem_segments (hcut ▸ List.mem_append_right kept hmem)
    have hsteps : steps ([slash].intercalate idle) = [] := steps_eq_nil (hsegments.symm ▸ hidle)
    obtain ⟨hfront, hp⟩ := eq_of_split_append hrest
    conv_rhs => rw [hp, components_append_slash hfront, hsteps, List.append_nil]

/-- A name is no idle segment to be cut off. -/
theorem trimIdle_append_name (front : List Bytes) {bytes : Bytes} (h : IsName bytes) :
    (trimIdle (front ++ [bytes])).reverse = bytes :: front.reverse := by
  rw [trimIdle, List.reverse_append, List.reverse_singleton, List.singleton_append,
    List.dropWhile_cons_of_neg (by rw [h.not_isIdle]; exact Bool.false_ne_true),
    List.reverse_reverse]

/-- The parent of a path whose last segment is a name. -/
theorem parent?_of_split {p : Path} {start : Start} {body : Bytes} {front : List Bytes}
    {bytes : Bytes} (h : IsName bytes) (hsplit : p.split = (start, body))
    (hbody : segments body = front ++ [bytes]) :
    p.parent? = some ⟨start.bytes ++ [slash].intercalate (trimIdle front)⟩ := by
  rw [parent?, hsplit]
  dsimp only
  rw [hbody, trimIdle_append_name front h]
  dsimp only
  rw [List.reverse_reverse]

/-- **The parent of a continued path has the steps of the path itself.** -/
theorem parent?_join (p : Path) {bytes : Bytes} (h : IsName bytes) :
    ∃ parent, (p.join bytes).parent? = some parent ∧ parent.components = p.components := by
  obtain ⟨hnil, hjoin⟩ | ⟨hroot, hjoin⟩ | ⟨front, hfront, hsteps, hjoin⟩ := p.join_cases h
  · obtain rfl : p = ⟨[]⟩ := by rw [← hnil]
    rw [hjoin]
    exact ⟨_, parent?_of_split h h.split_eq (h.segments_eq.trans (List.nil_append _).symm), rfl⟩
  · obtain rfl : p = ⟨[slash]⟩ := by rw [← hroot]
    have hsplit : split ⟨slash :: bytes⟩ = (.root, bytes) := by rw [split_cons, if_pos rfl]
    rw [hjoin]
    exact ⟨_, parent?_of_split h hsplit (h.segments_eq.trans (List.nil_append _).symm), rfl⟩
  · have hbody : segments ((split ⟨front⟩).2 ++ slash :: bytes) =
        segments (split ⟨front⟩).2 ++ [bytes] := by
      rw [segments, List.splitOn_append_cons_self]
      exact congrArg _ h.segments_eq
    rw [hjoin]
    exact ⟨_, parent?_of_split h (split_append_slash hfront bytes) hbody,
      (components_trimIdle ⟨front⟩).trans hsteps⟩

/-- Segments without slashes are told apart again. -/
theorem segments_intercalate {parts : List Bytes} (hne : parts ≠ [])
    (h : ∀ segment ∈ parts, slash ∉ segment) : segments ([slash].intercalate parts) = parts :=
  List.splitOn_intercalate slash h hne

/-- Where only the first segment says something, there is one step. -/
theorem steps_cons_idle {last : Bytes} {idle : List Bytes} (hlast : isIdle last = false)
    (hidle : ∀ segment ∈ idle, isIdle segment = true)
    (hslash : ∀ segment ∈ last :: idle, slash ∉ segment) :
    steps ([slash].intercalate (last :: idle)) = [step last] := by
  have hnone : idle.filter (!isIdle ·) = [] := by
    rw [List.filter_eq_nil_iff]
    intro segment hmem
    simp [hidle segment hmem]
  rw [steps, segments_intercalate (List.cons_ne_nil _ _) hslash,
    List.filter_cons_of_pos (by simp [hlast]), hnone]
  rfl

theorem step_ne_root (segment : Bytes) : step segment ≠ .root := by
  unfold step
  split_ifs <;> simp

/-- The last segment that says something, what stands before it, and the idle ones behind it. -/
theorem exists_idle_of_trimIdle {parts front : List Bytes} {last : Bytes}
    (h : (trimIdle parts).reverse = last :: front) :
    ∃ idle, parts = front.reverse ++ last :: idle ∧ isIdle last = false ∧
      ∀ segment ∈ idle, isIdle segment = true := by
  have hkept : parts.rdropWhile isIdle = front.reverse ++ [last] := by
    show trimIdle parts = _
    rw [← List.reverse_reverse (trimIdle _), h, List.reverse_cons]
  refine ⟨parts.rtakeWhile isIdle, ?_, ?_, fun _ hmem => List.mem_rtakeWhile_imp hmem⟩
  · calc parts = parts.rdropWhile isIdle ++ parts.rtakeWhile isIdle :=
          List.rdropWhile_append_rtakeWhile.symm
      _ = front.reverse ++ last :: parts.rtakeWhile isIdle := by
          rw [hkept, List.append_assoc, List.singleton_append]
  · have hne : parts.rdropWhile isIdle ≠ [] := by simp [hkept]
    have hnot := List.rdropWhile_last_not isIdle _ hne
    have hget : (parts.rdropWhile isIdle).getLast hne = last := by
      simp only [hkept, List.getLast_concat]
    rwa [hget, Bool.not_eq_true] at hnot

/-- **A path ends in the last segment that says something**: without it and the idle ones behind it, the
path has one step less. -/
theorem components_eq_concat {p : Path} {before idle : List Bytes} {last : Bytes}
    (hparts : segments p.split.2 = before ++ last :: idle) (hlast : isIdle last = false)
    (hidle : ∀ segment ∈ idle, isIdle segment = true) :
    p.components =
      components ⟨p.split.1.bytes ++ [slash].intercalate (trimIdle before)⟩ ++ [step last] := by
  have hall : [slash].intercalate (segments p.split.2) = p.split.2 := List.intercalate_splitOn slash
  have hslash : ∀ segment ∈ segments p.split.2, slash ∉ segment :=
    fun _ hmem => no_slash_of_mem_segments hmem
  rw [hparts] at hall hslash
  have hsteps : steps ([slash].intercalate (last :: idle)) = [step last] :=
    steps_cons_idle hlast hidle fun segment hmem => hslash segment (List.mem_append_right _ hmem)
  by_cases hbefore : before = []
  -- the last step is the only one behind the start
  · subst hbefore
    rw [List.nil_append] at hall
    rw [components_eq, ← hall, hsteps]
    show _ = components ⟨p.split.1.bytes ++ []⟩ ++ _
    rw [List.append_nil, components_start]
  -- it stands behind a slash
  · rw [intercalate_append hbefore (List.cons_ne_nil _ _)] at hall
    obtain ⟨hfront, hp⟩ := eq_of_split_append hall.symm
    have htrim := components_trimIdle ⟨p.split.1.bytes ++ [slash].intercalate before⟩
    rw [split_front hall.symm] at htrim
    dsimp only at htrim
    rw [segments_intercalate hbefore fun segment hmem => hslash segment (List.mem_append_left _ hmem)]
      at htrim
    rw [htrim]
    conv_lhs => rw [hp, components_append_slash hfront, hsteps]

/-- **The parent of a path has one step less**, and the last step is not the root. -/
theorem exists_last_of_parent? {p parent : Path} (h : p.parent? = some parent) :
    ∃ last, last ≠ Component.root ∧ p.components = parent.components ++ [last] := by
  unfold parent? at h
  dsimp only at h
  split at h
  · rename_i last front hrev
    obtain rfl := Option.some.inj h
    obtain ⟨idle, hparts, hlast, hidle⟩ := exists_idle_of_trimIdle hrev
    exact ⟨step last, step_ne_root last, components_eq_concat hparts hlast hidle⟩
  · rename_i hrev
    split at h
    -- only the dot at the start is dropped
    · rename_i hstart
      obtain rfl := Option.some.inj h
      have hidle : ∀ segment ∈ segments p.split.2, isIdle segment = true := by
        rw [List.reverse_eq_nil_iff] at hrev
        exact List.rdropWhile_eq_nil_iff.mp hrev
      refine ⟨.current, by simp, ?_⟩
      rw [components_eq, hstart, steps_eq_nil hidle]
      rfl
    · cases h
    · cases h

/-! ## The names in a path -/

/-- What a path calls a name is one. -/
theorem isName_of_mem_components {p : Path} {bytes : Bytes} (h : .name bytes ∈ p.components) :
    IsName bytes ∧ bytes ∈ segments p.split.2 := by
  rw [components_eq, List.mem_append] at h
  rcases h with h | h
  · cases hs : p.split.1 <;> rw [hs] at h <;> simp [Start.components] at h
  · rw [steps, List.mem_map] at h
    obtain ⟨segment, hmem, hstep⟩ := h
    rw [List.mem_filter, Bool.not_eq_true', ← Bool.not_eq_true, isIdle_iff, not_or] at hmem
    obtain ⟨hmem, hnil, hdot⟩ := hmem
    unfold step at hstep
    split_ifs at hstep with hdots
    obtain rfl := Component.name.inj hstep
    exact ⟨⟨hnil, no_slash_of_mem_segments hmem, hdot, hdots⟩, hmem⟩

open Utf8 (IsText)

theorem splitOn_append {front : Bytes} (h : slash ∉ front) (rest : Bytes) :
    segments (front ++ rest) = (segments rest).modifyHead (front ++ ·) := by
  induction front with
  | nil =>
      obtain ⟨first, more, hsplit⟩ := List.exists_cons_of_ne_nil (List.splitOn_ne_nil slash rest)
      rw [List.nil_append, segments, hsplit]
      rfl
  | cons b bs ih =>
      have hb : ¬ (b == slash) = true := fun hb => h (beq_iff_eq.mp hb ▸ List.mem_cons_self)
      rw [List.cons_append, segments, List.splitOn_cons_eq_if_modifyHead, if_neg hb]
      show (segments (bs ++ rest)).modifyHead _ = _
      rw [ih fun hbs => h (List.mem_cons_of_mem _ hbs), List.modifyHead_modifyHead]
      rfl

/-- The segments of a text's bytes are texts. -/
theorem isText_of_mem_segments {bytes segment : Bytes} (hbytes : IsText bytes)
    (h : segment ∈ segments bytes) : IsText segment := by
  obtain ⟨text, rfl⟩ := hbytes
  unfold Utf8.encode at h
  generalize text.toList = chars at h
  induction chars generalizing segment with
  | nil =>
      rw [List.flatMap_nil, segments, List.splitOn_nil, List.mem_singleton] at h
      exact ⟨"", h⟩
  | cons c cs ih =>
      rw [List.flatMap_cons] at h
      by_cases hslash : slash ∈ String.utf8EncodeChar c
      · rw [Utf8.encodeChar_ascii hslash (by decide), List.singleton_append, segments,
          List.splitOn_cons_eq_if_modifyHead, if_pos (beq_self_eq_true _)] at h
        rcases List.mem_cons.mp h with rfl | h
        · exact ⟨"", rfl⟩
        · exact ih h
      · rw [splitOn_append hslash] at h
        obtain ⟨first, more, hsplit⟩ := List.exists_cons_of_ne_nil
          (List.splitOn_ne_nil slash (cs.flatMap String.utf8EncodeChar))
        rw [segments, hsplit] at h ih
        rcases List.mem_cons.mp h with rfl | h
        · exact (Utf8.isText_encodeChar c).append (ih List.mem_cons_self)
        · exact ih (List.mem_cons_of_mem _ h)

/-- What follows the start of a text's bytes is a text. -/
theorem isText_split {p : Path} (hp : IsText p.bytes) : IsText p.split.2 := by
  rw [bytes_eq_split p] at hp
  cases hs : p.split.1 <;> rw [hs] at hp
  · exact hp.tail (by decide)
  · exact hp.tail (by decide)
  · exact hp

/-- **The names in a path of text** are names, and are texts. -/
theorem exists_encode_of_mem_components {p : Path} (hp : IsText p.bytes) {bytes : Bytes}
    (h : .name bytes ∈ p.components) : ∃ text, bytes = Utf8.encode text ∧ IsName bytes := by
  obtain ⟨hname, hmem⟩ := isName_of_mem_components h
  obtain ⟨text, rfl⟩ := isText_of_mem_segments (isText_split hp) hmem
  exact ⟨text, rfl, hname⟩

/-- The bytes of a text have a slash where the text has one. -/
theorem slash_mem_encode {text : String} : slash ∈ Utf8.encode text ↔ '/' ∈ text.toList := by
  unfold Utf8.encode
  rw [List.mem_flatMap]
  constructor
  · rintro ⟨c, hc, hslash⟩
    have hencoded : Utf8.encode (String.singleton c) = Utf8.encode "/" := by
      show List.flatMap _ (String.singleton c).toList = _
      rw [String.toList_singleton, List.flatMap_singleton, Utf8.encodeChar_ascii hslash (by decide)]
      rfl
    have hsame := congrArg String.toList (Utf8.encode_injective hencoded)
    rw [String.toList_singleton] at hsame
    rwa [List.singleton_inj.mp (hsame.trans (show "/".toList = ['/'] from rfl))] at hc
  · intro hmem
    exact ⟨'/', hmem, by decide⟩

end RunSweep.Path
