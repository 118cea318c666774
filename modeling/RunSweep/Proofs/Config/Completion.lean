import RunSweep.Config.Resolution
import RunSweep.Proofs.Config.Values
import RunSweep.Proofs.Text.Decoding

/-!
# Documents are completed by defaults

A document need not say everything. What it says is taken as it is written, and each section and each field
that it leaves out is that of the default configuration, `({} : Draft)`. `Draft.Completes` says so of a
draft, field by field, without regard to how a document is read.

The defaults are written down twice: the fields of a section have theirs where the section is read, and a
section that is left out is a default as a whole. It is a theorem that the two agree, whichever of the
fields are given: a section that is left out, one that is empty and one that only repeats defaults come to
the same.
-/

namespace RunSweep

namespace Toml

/-! ## Fields -/

/-- The fields that are known, and what their values are well-formed as. -/
abbrev Schema : Type := List (String × (Value → Prop))

/-- **Every known field that is given has a well-formed value.** Nothing is asked of what is not known. -/
def WellTyped (schema : Schema) (entries : Entries) : Prop :=
  ∀ field ∈ schema, ∀ v ∈ entries.lookup field.1, field.2 v

/-- **A field of a table**: what is written there, or else the default. -/
def Fills {α : Type} (writes : Value → α → Prop) (dflt : α) (entries : Entries) (name : String)
    (x : α) : Prop :=
  match entries.lookup name with
  | some v => writes v x
  | none => x = dflt

/-- A field is read as it is written, or has its default. -/
theorem yields_read {α : Type} {writes : Value → α → Prop} {convert : Value → Except Mismatch α}
    {entries : Entries} {name : String} (names : List String) (missing : α)
    (h : ∀ v, entries.lookup name = some v → Yields (convert v) (writes v)) :
    Yields ((Fields.named entries).read names name convert missing)
      (Fills writes missing entries name) := by
  unfold Fills
  rw [Fields.read, Fields.get?]
  cases hlookup : entries.lookup name with
  | none => exact ⟨missing, rfl, fun y => Iff.rfl⟩
  | some v => exact h v hlookup

theorem Reads.field {α : Type} {wellFormed : Value → Prop} {writes : Value → α → Prop}
    {convert : Value → Except Mismatch α} (h : Reads wellFormed writes convert) {schema : Schema}
    {entries : Entries} (htyped : WellTyped schema entries) (name : String)
    (hfield : (name, wellFormed) ∈ schema) (names : List String) (missing : α) :
    Yields ((Fields.named entries).read names name convert missing)
      (Fills writes missing entries name) :=
  yields_read names missing fun v hv => h v (htyped _ hfield v hv)

/-- The numbers of a document can be read. -/
def Readable (entries : Entries) : Prop := allEntries fitsDoubleWord entries = true

theorem Readable.tail {entry : String × Value} {entries : Entries} (h : Readable (entry :: entries)) :
    Readable entries := by
  rw [Readable, allEntries, Bool.and_eq_true] at h
  exact h.2

/-- So can those of a table in it. -/
theorem Readable.inner {entries inner : Entries} (h : Readable entries) {name : String} {origin : Origin}
    (hlookup : entries.lookup name = some (.table origin inner)) : Readable inner := by
  induction entries with
  | nil => cases hlookup
  | cons entry entries ih =>
      rw [List.lookup_cons] at hlookup
      split at hlookup
      · rw [Readable, allEntries, Option.some.inj hlookup, Value.all, Bool.and_eq_true] at h
        exact h.1
      · exact ih h.tail hlookup

theorem Readable.filter {entries : Entries} (h : Readable entries) (p : String × Value → Bool) :
    Readable (entries.filter p) := by
  induction entries with
  | nil => exact h
  | cons entry entries ih =>
      rw [List.filter_cons]
      split
      · rw [Readable, allEntries, Bool.and_eq_true] at h ⊢
        exact ⟨h.1, ih h.2⟩
      · exact ih h.tail

/-- No mismatch is found if there is none among the fields, whatever else there is. -/
theorem Readable.check {entries : Entries} (h : Readable entries)
    {results : List (String × Except Mismatch Unit)} (hall : ∀ r ∈ results, r.2 = .ok ()) :
    (Fields.named entries).check results = .ok () := by
  have hforM : ∀ l : List (String × Except Mismatch Unit), (∀ r ∈ l, r.2 = .ok ()) →
      l.forM (·.2) = .ok () := by
    intro l hl
    induction l with
    | nil => rfl
    | cons r l ih =>
        obtain ⟨hr, hl⟩ := List.forall_mem_cons.mp hl
        rw [List.forM_eq_forM, List.forM_cons, hr]
        exact ih hl
  rw [Fields.check, hforM _ fun r hr => hall r (List.mem_mergeSort.mp hr)]
  show (Fields.named entries).checkUnknown _ = _
  rw [Fields.checkUnknown]
  exact if_pos (h.filter _)

end Toml

open Toml

/-! ## Sections -/

namespace Acquisition

/-- The known fields of the section. -/
def schema : Schema :=
  [("binary", IsText), ("threshold", IsNumber), ("duration_secs", IsCount), ("nrun", IsSigned),
    ("coincidence", IsBool), ("name", IsText), ("allow_modified", IsBool), ("extra_args", IsTexts)]

/-- **The section as it is written**, completed by the default section. -/
structure Completes (entries : Entries) (a : Acquisition) : Prop where
  binary : Fills WritesPath ({} : Acquisition).binary entries "binary" a.binary
  threshold : Fills WritesNumber ({} : Acquisition).threshold entries "threshold" a.threshold
  durationSecs : Fills WritesCount ({} : Acquisition).durationSecs entries "duration_secs"
    a.durationSecs
  nrun : Fills WritesSigned ({} : Acquisition).nrun entries "nrun" a.nrun
  coincidence : Fills WritesBool ({} : Acquisition).coincidence entries "coincidence" a.coincidence
  name : Fills (WritesSome WritesText) ({} : Acquisition).name entries "name" a.name
  allowModified : Fills WritesBool ({} : Acquisition).allowModified entries
    "allow_modified" a.allowModified
  extraArgs : Fills WritesTexts ({} : Acquisition).extraArgs entries "extra_args" a.extraArgs

theorem yields_ofValue {entries : Entries} (hreadable : Readable entries)
    (htyped : WellTyped schema entries) (origin : Origin) :
    Yields (ofValue (.table origin entries)) (Completes entries) := by
  obtain ⟨binary, hbinary, hb⟩ :=
    Reads.path.field htyped "binary" (by simp [schema]) fieldNames defaultBinary
  obtain ⟨threshold, hthreshold, ht⟩ :=
    Reads.number.field htyped "threshold" (by simp [schema]) fieldNames defaultThreshold
  obtain ⟨duration, hduration, hd⟩ :=
    Reads.count.field htyped "duration_secs" (by simp [schema]) fieldNames defaultDurationSecs
  obtain ⟨nrun, hnrun, hn⟩ :=
    Reads.signed.field htyped "nrun" (by simp [schema]) fieldNames defaultNrun
  obtain ⟨coincidence, hcoincidence, hc⟩ :=
    Reads.bool.field htyped "coincidence" (by simp [schema]) fieldNames true
  obtain ⟨tag, htag, hg⟩ :=
    Reads.text.some.field htyped "name" (by simp [schema]) fieldNames none
  obtain ⟨allow, hallow, ha⟩ :=
    Reads.bool.field htyped "allow_modified" (by simp [schema]) fieldNames false
  obtain ⟨extra, hextra, he⟩ :=
    Reads.texts.field htyped "extra_args" (by simp [schema]) fieldNames []
  refine ⟨⟨binary, threshold, duration, nrun, coincidence, tag, allow, extra⟩, ?_, fun b => ⟨?_, ?_⟩⟩
  · simp only [ofValue, Value.fields, bind, Except.bind, hbinary, hthreshold, hduration, hnrun,
      hcoincidence, htag, hallow, hextra]
    rw [hreadable.check (by simp [fieldNames, outcome, Except.map])]
    rfl
  · intro h
    rcases b with ⟨_, _, _, _, _, _, _, _⟩
    rw [mk.injEq]
    exact ⟨(hb _).mp h.binary, (ht _).mp h.threshold, (hd _).mp h.durationSecs, (hn _).mp h.nrun,
      (hc _).mp h.coincidence, (hg _).mp h.name, (ha _).mp h.allowModified, (he _).mp h.extraArgs⟩
  · rintro rfl
    exact ⟨(hb _).mpr rfl, (ht _).mpr rfl, (hd _).mpr rfl, (hn _).mpr rfl, (hc _).mpr rfl,
      (hg _).mpr rfl, (ha _).mpr rfl, (he _).mpr rfl⟩

end Acquisition

namespace SweepSettings

/-- The known fields of the section. -/
def schema : Schema :=
  [("working_dir", IsText), ("archive_dir", IsText), ("threshold_mb", IsNumber),
    ("create_archive_dir", IsBool)]

/-- **The section as it is written**, completed by the default section. -/
structure Completes (entries : Entries) (s : SweepSettings) : Prop where
  workingDir : Fills WritesPath ({} : SweepSettings).workingDir entries "working_dir" s.workingDir
  archiveDir : Fills WritesPath ({} : SweepSettings).archiveDir entries "archive_dir" s.archiveDir
  threshold : Fills (WritesSome WritesNumber) ({} : SweepSettings).threshold entries "threshold_mb"
    s.threshold
  createArchiveDir : Fills WritesBool ({} : SweepSettings).createArchiveDir entries
    "create_archive_dir" s.createArchiveDir

theorem yields_ofValue {entries : Entries} (hreadable : Readable entries)
    (htyped : WellTyped schema entries) (origin : Origin) :
    Yields (ofValue (.table origin entries)) (Completes entries) := by
  obtain ⟨working, hworking, hw⟩ :=
    Reads.path.field htyped "working_dir" (by simp [schema]) fieldNames defaultWorkingDir
  obtain ⟨archive, harchive, ha⟩ :=
    Reads.path.field htyped "archive_dir" (by simp [schema]) fieldNames defaultArchiveDir
  obtain ⟨threshold, hthreshold, ht⟩ :=
    Reads.number.some.field htyped "threshold_mb" (by simp [schema]) fieldNames none
  obtain ⟨create, hcreate, hc⟩ :=
    Reads.bool.field htyped "create_archive_dir" (by simp [schema]) fieldNames true
  refine ⟨⟨working, archive, threshold, create⟩, ?_, fun t => ⟨?_, ?_⟩⟩
  · simp only [ofValue, Value.fields, bind, Except.bind, hworking, harchive, hthreshold, hcreate]
    rw [hreadable.check (by simp [fieldNames, outcome, Except.map])]
    rfl
  · intro h
    rcases t with ⟨_, _, _, _⟩
    rw [mk.injEq]
    exact ⟨(hw _).mp h.workingDir, (ha _).mp h.archiveDir, (ht _).mp h.threshold,
      (hc _).mp h.createArchiveDir⟩
  · rintro rfl
    exact ⟨(hw _).mpr rfl, (ha _).mpr rfl, (ht _).mpr rfl, (hc _).mpr rfl⟩

end SweepSettings

namespace Repetition

/-- The known fields of the section. -/
def schema : Schema :=
  [("single_shot", IsBool), ("max_iterations", IsCount), ("on_launch_failure", IsPolicy)]

/-- **The section as it is written**, completed by the default section. -/
structure Completes (entries : Entries) (r : Repetition) : Prop where
  singleShot : Fills WritesBool ({} : Repetition).singleShot entries "single_shot" r.singleShot
  maxIterations : Fills (WritesSome WritesCount) ({} : Repetition).maxIterations entries
    "max_iterations" r.maxIterations
  onLaunchFailure : Fills WritesPolicy ({} : Repetition).onLaunchFailure entries "on_launch_failure"
    r.onLaunchFailure

theorem yields_ofValue {entries : Entries} (hreadable : Readable entries)
    (htyped : WellTyped schema entries) (origin : Origin) :
    Yields (ofValue (.table origin entries)) (Completes entries) := by
  obtain ⟨single, hsingle, hs⟩ :=
    Reads.bool.field htyped "single_shot" (by simp [schema]) fieldNames false
  obtain ⟨max, hmax, hm⟩ :=
    Reads.count.some.field htyped "max_iterations" (by simp [schema]) fieldNames none
  obtain ⟨policy, hpolicy, hp⟩ :=
    Reads.policy.field htyped "on_launch_failure" (by simp [schema]) fieldNames .abort
  refine ⟨⟨single, max, policy⟩, ?_, fun s => ⟨?_, ?_⟩⟩
  · simp only [ofValue, Value.fields, bind, Except.bind, hsingle, hmax, hpolicy]
    rw [hreadable.check (by simp [fieldNames, outcome, Except.map])]
    rfl
  · intro h
    rcases s with ⟨_, _, _⟩
    rw [mk.injEq]
    exact ⟨(hs _).mp h.singleShot, (hm _).mp h.maxIterations, (hp _).mp h.onLaunchFailure⟩
  · rintro rfl
    exact ⟨(hs _).mpr rfl, (hm _).mpr rfl, (hp _).mpr rfl⟩

end Repetition

/-! ## Documents -/

/-- A section is a table in which every known field that is given has a well-formed value. -/
def IsSection (schema : Schema) (v : Value) : Prop :=
  ∃ origin entries, v = .table origin entries ∧ WellTyped schema entries

/-- A section is written as a table. -/
def WritesSection {α : Type} (completes : Entries → α → Prop) (v : Value) (x : α) : Prop :=
  ∃ origin entries, v = .table origin entries ∧ completes entries x

/-- **A section that tells nothing new**: it is missing or empty, or repeats defaults. -/
inductive TellsNothing {α : Type} (completes : Entries → α → Prop) (dflt : α) (document : Entries)
    (title : String) : Prop
  | missing (h : document.lookup title = none)
  | empty (origin : Origin) (h : document.lookup title = some (.table origin []))
  | repeats (origin : Origin) (entries : Entries) (hdefaults : completes entries dflt)
      (h : document.lookup title = some (.table origin entries))

theorem TellsNothing.fills {α : Type} {completes : Entries → α → Prop} {dflt : α} {document : Entries}
    {title : String} (h : TellsNothing completes dflt document title) (hempty : completes [] dflt) :
    Fills (WritesSection completes) dflt document title dflt := by
  unfold Fills
  cases h with
  | missing h => rw [h]
  | empty origin h => rw [h]; exact ⟨origin, [], rfl, hempty⟩
  | repeats origin entries hdefaults h => rw [h]; exact ⟨origin, entries, rfl, hdefaults⟩

namespace Draft

/-- The known sections. -/
def schema : Schema :=
  [("acquisition", IsSection Acquisition.schema), ("sweep", IsSection SweepSettings.schema),
    ("loop", IsSection Repetition.schema)]

/-- **The draft that a document writes**, completed by the default draft. -/
structure Completes (document : Entries) (draft : Draft) : Prop where
  acquisition : Fills (WritesSection Acquisition.Completes) ({} : Draft).acquisition document
    "acquisition" draft.acquisition
  sweep : Fills (WritesSection SweepSettings.Completes) ({} : Draft).sweep document "sweep"
    draft.sweep
  repetition : Fills (WritesSection Repetition.Completes) ({} : Draft).repetition document "loop"
    draft.repetition

/-- A section is read as it is written if its fields are. -/
theorem yields_section {α : Type} {schema : Schema} {completes : Entries → α → Prop}
    {convert : Value → Except Mismatch α}
    (h : ∀ entries, Readable entries → WellTyped schema entries → ∀ origin,
      Yields (convert (.table origin entries)) (completes entries))
    {document : Entries} (hreadable : Readable document) (htyped : WellTyped Draft.schema document)
    (title : String) (hsection : (title, IsSection schema) ∈ Draft.schema) (missing : α) :
    Yields ((Fields.named document).read sectionNames title convert missing)
      (Fills (WritesSection completes) missing document title) := by
  refine yields_read sectionNames missing fun v hv => ?_
  obtain ⟨origin, entries, rfl, hentries⟩ := htyped _ hsection v hv
  obtain ⟨x, hx, hunique⟩ := h entries (hreadable.inner hv) hentries origin
  refine ⟨x, hx, fun y => (Iff.trans ?_ (hunique y))⟩
  constructor
  · rintro ⟨_, _, heq, hcompletes⟩
    cases heq
    exact hcompletes
  · exact fun hcompletes => ⟨origin, entries, rfl, hcompletes⟩

theorem yields_ofEntries {document : Entries} (hreadable : Readable document)
    (htyped : WellTyped schema document) : Yields (ofEntries document) (Completes document) := by
  obtain ⟨acquisition, hacquisition, ha⟩ :=
    yields_section (fun _ => Acquisition.yields_ofValue) hreadable htyped "acquisition"
      (by simp [schema]) {}
  obtain ⟨sweep, hsweep, hs⟩ :=
    yields_section (fun _ => SweepSettings.yields_ofValue) hreadable htyped "sweep"
      (by simp [schema]) {}
  obtain ⟨repetition, hrepetition, hr⟩ :=
    yields_section (fun _ => Repetition.yields_ofValue) hreadable htyped "loop"
      (by simp [schema]) {}
  refine ⟨⟨acquisition, sweep, repetition⟩, ?_, fun other => ⟨?_, ?_⟩⟩
  · simp only [ofEntries, bind, Except.bind, hacquisition, hsweep, hrepetition]
    rw [hreadable.check (by simp [sectionNames, outcome, Except.map])]
    rfl
  · intro h
    rcases other with ⟨_, _, _⟩
    rw [mk.injEq]
    exact ⟨(ha _).mp h.acquisition, (hs _).mp h.sweep, (hr _).mp h.repetition⟩
  · rintro rfl
    exact ⟨(ha _).mpr rfl, (hs _).mpr rfl, (hr _).mpr rfl⟩

/-- **What is loaded from a document**: the one draft that has what the document gives, and defaults for
the rest. -/
structure Completed (document : Entries) (draft : Draft) : Prop where
  completes : Completes document draft
  unique : ∀ other, Completes document other → other = draft
  /-- It makes no difference how a section comes to tell nothing. -/
  acquisition : TellsNothing Acquisition.Completes {} document "acquisition" → draft.acquisition = {}
  sweep : TellsNothing SweepSettings.Completes {} document "sweep" → draft.sweep = {}
  repetition : TellsNothing Repetition.Completes {} document "loop" → draft.repetition = {}

/-- **A document is completed by defaults**, whatever it gives and whatever it leaves out, and whatever
else stands in it. -/
theorem document_completed (d : Disk) (path : Path) {text : String} {document : Entries}
    (hread : d.readText path = .ok text) (hparse : Toml.parse? text = some document)
    (hreadable : Readable document) (htyped : WellTyped schema document) :
    ∃ draft, load d path = .ok draft ∧ Completed document draft := by
  obtain ⟨draft, hdraft, hunique⟩ := yields_ofEntries hreadable htyped
  have hcompletes := (hunique draft).mpr rfl
  refine ⟨draft, ?_, ?_⟩
  · rw [load, hread]
    show (ofDocument text).mapError RunError.document = _
    rw [ofDocument, hparse]
    dsimp only
    rw [hdraft]
    rfl
  · constructor
    case completes => exact hcompletes
    case unique => exact fun other => (hunique other).mp
    case acquisition =>
      intro h
      have hother : Completes document { draft with acquisition := {} } :=
        { hcompletes with acquisition := h.fills (by constructor <;> rfl) }
      exact congrArg acquisition ((hunique _).mp hother).symm
    case sweep =>
      intro h
      have hother : Completes document { draft with sweep := {} } :=
        { hcompletes with sweep := h.fills (by constructor <;> rfl) }
      exact congrArg sweep ((hunique _).mp hother).symm
    case repetition =>
      intro h
      have hother : Completes document { draft with repetition := {} } :=
        { hcompletes with repetition := h.fills (by constructor <;> rfl) }
      exact congrArg repetition ((hunique _).mp hother).symm

/-- A document that gives two fields of one section and none of another, leaves the third one out, and has
keys that nobody knows. -/
def sampleText : String :=
  "mystery = [1]\n[acquisition]\nthreshold = 200\nname = \"run\"\nother = 7\n[sweep]\n"

/-- The table of that document. -/
def sampleDocument : Entries :=
  [("mystery", .array false [.integer 1]),
    ("acquisition", .table .header
      [("threshold", .integer 200), ("name", .string "run"), ("other", .integer 7)]),
    ("sweep", .table .header [])]

/-- A disk with the document in a file. -/
def sampleDisk : Disk :=
  { nodes := [([Utf8.encode "c"], .file { bytes := Utf8.encode sampleText } false)], cwd := [] }

theorem readText_sample : sampleDisk.readText (.ofText "c") = .ok sampleText := by
  have hfile : sampleDisk.read (.ofText "c") = .ok { bytes := Utf8.encode sampleText } := rfl
  rw [Disk.readText, hfile]
  simp [bind, Except.bind, Contents.toBytes, pure, Except.pure]

theorem parse?_sample : Toml.parse? sampleText = some sampleDocument := by cbv

theorem wellTyped_sample : WellTyped schema sampleDocument := by
  have hgiven : WellTyped Acquisition.schema
      [("threshold", .integer 200), ("name", .string "run"), ("other", .integer 7)] := by
    simp [WellTyped, Acquisition.schema, List.lookup, IsNumber, IsText]
  have hempty : WellTyped SweepSettings.schema [] := by simp [WellTyped]
  intro field hfield v hv
  simp only [schema, List.mem_cons, List.not_mem_nil, or_false] at hfield
  rcases hfield with rfl | rfl | rfl
  · obtain rfl := Option.some.inj hv
    exact ⟨_, _, rfl, hgiven⟩
  · obtain rfl := Option.some.inj hv
    exact ⟨_, _, rfl, hempty⟩
  · simp [sampleDocument, List.lookup] at hv

/-- What that document does not give is as it always is. -/
theorem sample_completed :
    sampleDisk.readText (.ofText "c") = .ok sampleText ∧ Toml.parse? sampleText = some sampleDocument ∧
      Readable sampleDocument ∧ WellTyped schema sampleDocument ∧
      ∃ draft, load sampleDisk (.ofText "c") = .ok draft ∧ Completed sampleDocument draft ∧
        draft.acquisition.name = some "run" ∧ draft.sweep = {} ∧ draft.repetition = {} := by
  have hreadable : Readable sampleDocument := rfl
  obtain ⟨draft, hload, hcompleted⟩ :=
    document_completed sampleDisk (.ofText "c") readText_sample parse?_sample hreadable wellTyped_sample
  refine ⟨readText_sample, parse?_sample, hreadable, wellTyped_sample, draft, hload, hcompleted, ?_, ?_, ?_⟩
  · obtain ⟨_, _, htable, hacquisition⟩ := hcompleted.completes.acquisition
    cases htable
    obtain ⟨tag, htag, hwrites⟩ := hacquisition.name
    cases hwrites
    exact htag
  · exact hcompleted.sweep (.empty .header rfl)
  · exact hcompleted.repetition (.missing rfl)

end Draft

end RunSweep
