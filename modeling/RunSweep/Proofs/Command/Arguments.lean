import Mathlib
import RunSweep.Command
import RunSweep.Proofs.Text.Encoding

/-!
# What the arguments of a command say

A value among the arguments may spell a flag: a directory may be called `-store`, and a name `-allowmod`.
Still the arguments tell what they were made of. Read from the left, each of them has its place: it is a flag
that is always there, the value of the flag before it, or the flag of something that may be left out, and
what follows where that is left out never is the same flag.

Only the extra words are free. `Config.HasPlainExtras` asks that they do not begin with one of the two flags
that may be missing before them; without it `Config.exists_posing` finds two configurations with one command.

Numbers are told by their decimals through `Nat.repr_inj` and `Int.repr_inj`, which come with the whole of
Mathlib only.
-/

namespace RunSweep

open Command (word)

namespace Command

theorem word_inj {s t : String} : word s = word t ↔ s = t :=
  Utf8.encode_injective.eq_iff

theorem word_ne {s t : String} (h : s ≠ t) : word s ≠ word t :=
  word_inj.not.mpr h

end Command

/-! ## Reading from the left -/

variable {flag : String} {value value' : Bytes} {rest rest' : List Bytes}

/-- A flag that is always there, and its value. -/
theorem flagValue_append_inj :
    flagValue flag value ++ rest = flagValue flag value' ++ rest' ↔ value = value' ∧ rest = rest' := by
  simp [flagValue]

/-- Where a flag may not come next, it is told apart from what does. -/
theorem cons_ne_of_head? {first : Bytes} {more : List Bytes} (h : rest.head? ≠ some first) :
    first :: more ≠ rest := by
  rintro rfl
  exact h rfl

/-- A flag that stands alone and may be left out. -/
theorem switch_append_inj {on on' : Bool} (h : rest.head? ≠ some (word flag))
    (h' : rest'.head? ≠ some (word flag)) :
    (if on then [word flag] else []) ++ rest = (if on' then [word flag] else []) ++ rest' ↔
      on = on' ∧ rest = rest' := by
  constructor
  case mp =>
    intro heq
    cases on with
    | false =>
        cases on' with
        | false => exact ⟨rfl, heq⟩
        | true => exact absurd heq.symm (cons_ne_of_head? h)
    | true =>
        cases on' with
        | false => exact absurd heq (cons_ne_of_head? h')
        | true => exact ⟨rfl, (List.cons.inj heq).2⟩
  case mpr =>
    rintro ⟨rfl, rfl⟩
    rfl

/-- A flag that may be left out together with its value. -/
theorem setting_append_inj {setting setting' : Option String} (h : rest.head? ≠ some (word flag))
    (h' : rest'.head? ≠ some (word flag)) :
    (setting.map fun text => flagValue flag (word text)).getD [] ++ rest =
        (setting'.map fun text => flagValue flag (word text)).getD [] ++ rest' ↔
      setting = setting' ∧ rest = rest' := by
  constructor
  case mp =>
    intro heq
    cases setting with
    | none =>
        cases setting' with
        | none => exact ⟨rfl, heq⟩
        | some text' => exact absurd heq.symm (cons_ne_of_head? h)
    | some text =>
        cases setting' with
        | none => exact absurd heq (cons_ne_of_head? h')
        | some text' =>
            obtain ⟨htext, hrest⟩ := flagValue_append_inj.mp heq
            exact ⟨congrArg some (Command.word_inj.mp htext), hrest⟩
  case mpr =>
    rintro ⟨rfl, rfl⟩
    rfl

namespace Config

/-- **What two configurations tell the acquisition program is the same.** -/
structure TellsSame (c c' : Config) : Prop where
  binary : c.acquisition.binary.bytes = c'.acquisition.binary.bytes
  threshold : renderFloat c.acquisition.threshold = renderFloat c'.acquisition.threshold
  durationSecs : c.acquisition.durationSecs = c'.acquisition.durationSecs
  nrun : c.acquisition.nrun = c'.acquisition.nrun
  coincidence : c.acquisition.coincidence = c'.acquisition.coincidence
  workingDir : c.sweep.workingDir.bytes = c'.sweep.workingDir.bytes
  archiveDir : c.sweep.archiveDir.bytes = c'.sweep.archiveDir.bytes
  name : c.acquisition.name = c'.acquisition.name
  allowModified : c.acquisition.allowModified = c'.acquisition.allowModified
  extraArgs : c.acquisition.extraArgs = c'.acquisition.extraArgs

/-- The extra words do not begin with a flag that may be missing before them. -/
structure HasPlainExtras (c : Config) : Prop where
  not_name : c.acquisition.extraArgs.head? ≠ some "-name"
  not_allowmod : c.acquisition.extraArgs.head? ≠ some "-allowmod"

variable {c c' : Config}

theorem head?_extraArgs {flag : String} (h : c.acquisition.extraArgs.head? ≠ some flag) :
    (c.acquisition.extraArgs.map word).head? ≠ some (word flag) := by
  rw [List.head?_map, ne_eq, Option.map_eq_some_iff]
  rintro ⟨text, htext, hword⟩
  exact h (by rw [htext, Command.word_inj.mp hword])

/-- What follows the name, if it is there or not, does not begin with its flag. -/
theorem HasPlainExtras.head?_behind_name (h : c.HasPlainExtras) :
    ((if c.acquisition.allowModified then [word "-allowmod"] else []) ++
        c.acquisition.extraArgs.map word).head? ≠ some (word "-name") := by
  split_ifs
  · rw [List.singleton_append, List.head?_cons, ne_eq, Option.some.injEq]
    exact Command.word_ne (by decide)
  · rw [List.nil_append]
    exact head?_extraArgs h.not_name

/-- **The command of a configuration says what it was made of**, whatever its values look like: two that are
alike, byte for byte, tell the program the same. -/
theorem command_determines (h : c.HasPlainExtras) (h' : c'.HasPlainExtras) :
    c.command.program.bytes = c'.command.program.bytes ∧ c.command.args = c'.command.args ↔
      c.TellsSame c' := by
  constructor
  · rintro ⟨hbinary, hargs⟩
    simp only [command, List.append_assoc, flagValue_append_inj] at hargs
    obtain ⟨hthreshold, hduration, hnrun, hargs⟩ := hargs
    -- the flag of the working directory is always there, so the switch before it is told apart
    have hdir {value : Bytes} {rest : List Bytes} :
        (flagValue "-dir" value ++ rest).head? ≠ some (word "-coincidence") := by
      rw [flagValue, List.cons_append, List.head?_cons, ne_eq, Option.some.injEq]
      exact Command.word_ne (by decide)
    rw [switch_append_inj hdir hdir, flagValue_append_inj, flagValue_append_inj,
      setting_append_inj h.head?_behind_name h'.head?_behind_name,
      switch_append_inj (head?_extraArgs h.not_allowmod) (head?_extraArgs h'.not_allowmod)] at hargs
    obtain ⟨hcoincidence, hworking, harchive, hname, hallow, hextra⟩ := hargs
    exact
      { binary := hbinary
        threshold := Command.word_inj.mp hthreshold
        durationSecs := UInt64.toNat_inj.mp (Nat.repr_inj.mp (Command.word_inj.mp hduration))
        nrun := Int64.toInt_inj.mp (Int.repr_inj.mp (Command.word_inj.mp hnrun))
        coincidence := hcoincidence
        workingDir := hworking
        archiveDir := harchive
        name := hname
        allowModified := hallow
        extraArgs := (List.map_injective_iff.mpr Utf8.encode_injective) hextra }
  · intro same
    refine ⟨same.binary, ?_⟩
    simp only [command, same.threshold, same.durationSecs, same.nrun, same.coincidence, same.workingDir,
      same.archiveDir, same.name, same.allowModified, same.extraArgs]

/-- A configuration whose directories and whose name are spelled like flags. -/
def lookalike : Config where
  acquisition := { name := some "-allowmod", extraArgs := ["x", "-name"] }
  sweep := { workingDir := .ofText "-store", archiveDir := .ofText "-dir" }
  valid := rfl

/-- Repeating it once makes no difference to the command, and giving the permission in place of the name does,
though the word `-allowmod` is there either way. -/
theorem lookalike_command_determines :
    let once : Config := { lookalike with repetition := { singleShot := true }, valid := rfl }
    let allowed : Config :=
      { lookalike with
        acquisition := { allowModified := true, extraArgs := ["x", "-name"] }
        valid := rfl }
    (lookalike.HasPlainExtras ∧ once.HasPlainExtras ∧ allowed.HasPlainExtras) ∧
      lookalike.TellsSame once ∧
        ¬ (lookalike.command.program.bytes = allowed.command.program.bytes ∧
          lookalike.command.args = allowed.command.args) := by
  intro once allowed
  have hplain : lookalike.HasPlainExtras := ⟨by decide, by decide⟩
  have honce : once.HasPlainExtras := ⟨by decide, by decide⟩
  have hallowed : allowed.HasPlainExtras := ⟨by decide, by decide⟩
  refine ⟨⟨hplain, honce, hallowed⟩, (command_determines hplain honce).mp ⟨rfl, rfl⟩, fun hsame => ?_⟩
  have hname := ((command_determines hplain hallowed).mp hsame).name
  cases hname

/-- An extra word may pose as the permission before it. -/
theorem exists_posing (hallow : c.acquisition.allowModified = true) :
    ∃ posing : Config, posing.acquisition.allowModified = false ∧ posing.command = c.command := by
  let acquisition : Acquisition :=
    { c.acquisition with
      allowModified := false
      extraArgs := "-allowmod" :: c.acquisition.extraArgs }
  refine ⟨{ toDraft := { c.toDraft with acquisition }, valid := c.valid }, rfl, ?_⟩
  simp [command, acquisition, hallow]

end Config

end RunSweep
