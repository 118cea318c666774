import RunSweep.Launch.Basic
import RunSweep.Proofs.Text.Decoding

/-!
# Output that is passed on

What a program prints comes as a stream of bytes, and `Cuts` says what its lines are. They are passed on one
by one, each once and in order, as long as they are texts. With the first one that is none the stream is
given up, and what stands behind it in the same stream is lost, whether it is a text or not.
-/

namespace RunSweep.Lines

open Utf8 (IsText encode)

/-! ## The lines of a stream -/

/-- A line without the carriage return at its end, if it has one there. -/
def dropCarriage (line : Bytes) : Bytes :=
  if line.getLast? = some carriage then line.dropLast else line

/-- **The lines of a stream.** A line feed ends a line, and takes one carriage return before it along. What
is left at the end is a line too, if anything is. -/
inductive Cuts : Bytes → List Bytes → Prop
  | empty : Cuts [] []
  | unfinished {piece : Bytes} (hne : piece ≠ []) (hfeed : feed ∉ piece) : Cuts piece [piece]
  | finished {piece rest : Bytes} {lines : List Bytes} (hfeed : feed ∉ piece) (h : Cuts rest lines) :
      Cuts (piece ++ feed :: rest) (dropCarriage piece :: lines)

/-- The lines that are found in a stream that has ended. -/
def ofStream (stream : Bytes) : List Bytes :=
  let (lines, unfinished) := split [] stream
  if unfinished.isEmpty then lines else lines ++ [unfinished]

/-- A line feed ends the line that has been read. -/
theorem split_feed (read rest : Bytes) :
    split read (feed :: rest) =
      (dropCarriage read.reverse :: (split [] rest).1, (split [] rest).2) := by
  have hline : (if read.head? == some carriage then read.tail else read).reverse =
      dropCarriage read.reverse := by
    rw [dropCarriage, List.getLast?_reverse, List.dropLast_reverse]
    by_cases hcarriage : read.head? = some carriage
    · rw [if_pos hcarriage, if_pos (beq_iff_eq.mpr hcarriage)]
    · rw [if_neg hcarriage, if_neg (by simpa using hcarriage)]
  rw [split, if_pos rfl]
  dsimp only
  rw [hline]

/-- Without a line feed no line is finished. -/
theorem split_of_notMem {piece : Bytes} (hfeed : feed ∉ piece) (read : Bytes) :
    split read piece = ([], read.reverse ++ piece) := by
  induction piece generalizing read with
  | nil => rw [split, List.append_nil]
  | cons b piece ih =>
      obtain ⟨hb, hpiece⟩ : feed ≠ b ∧ feed ∉ piece := by simpa using hfeed
      rw [split, if_neg (Ne.symm hb), ih hpiece, List.reverse_cons, List.append_assoc,
        List.singleton_append]

/-- The first line feed finishes the first line. -/
theorem split_append_feed {piece : Bytes} (hfeed : feed ∉ piece) (read rest : Bytes) :
    split read (piece ++ feed :: rest) =
      (dropCarriage (read.reverse ++ piece) :: (split [] rest).1, (split [] rest).2) := by
  induction piece generalizing read with
  | nil => rw [List.nil_append, split_feed, List.append_nil]
  | cons b piece ih =>
      obtain ⟨hb, hpiece⟩ : feed ≠ b ∧ feed ∉ piece := by simpa using hfeed
      rw [List.cons_append, split, if_neg (Ne.symm hb), ih hpiece, List.reverse_cons,
        List.append_assoc, List.singleton_append]

theorem ofStream_of_notMem {piece : Bytes} (hne : piece ≠ []) (hfeed : feed ∉ piece) :
    ofStream piece = [piece] := by
  rw [ofStream, split_of_notMem hfeed]
  simp [hne]

theorem ofStream_append_feed {piece : Bytes} (hfeed : feed ∉ piece) (rest : Bytes) :
    ofStream (piece ++ feed :: rest) = dropCarriage piece :: ofStream rest := by
  rw [ofStream, split_append_feed hfeed, ofStream]
  dsimp only
  split_ifs <;> rfl

/-- Every stream has lines. -/
theorem cuts_ofStream (stream : Bytes) : Cuts stream (ofStream stream) := by
  -- by the number of bytes, since a line takes away some of them
  induction hlength : stream.length using Nat.strong_induction_on generalizing stream with
  | _ n ih =>
      by_cases hfeed : feed ∈ stream
      · obtain ⟨piece, rest, rfl, hpiece⟩ := List.eq_append_cons_of_mem hfeed
        rw [ofStream_append_feed hpiece]
        refine .finished hpiece (ih rest.length ?_ rest rfl)
        rw [← hlength, List.length_append, List.length_cons]
        omega
      · by_cases hne : stream = []
        · rw [hne]
          exact .empty
        · rw [ofStream_of_notMem hne hfeed]
          exact .unfinished hne hfeed

/-- **A stream has its lines in just one way.** -/
theorem cuts_iff {stream : Bytes} {lines : List Bytes} : Cuts stream lines ↔ lines = ofStream stream := by
  constructor
  · intro h
    induction h with
    | empty => rfl
    | unfinished hne hfeed => rw [ofStream_of_notMem hne hfeed]
    | finished hfeed _ ih => rw [ofStream_append_feed hfeed, ih]
  · rintro rfl
    exact cuts_ofStream stream

/-! ## Up to the first line that is no text -/

/-- **Texts that are passed on of a stream**: those of its lines that stand before any line that is no
text, each once and in order. -/
structure Forwards (stream : Bytes) (texts : List String) : Prop where
  has_lines : ∃ lines, Cuts stream lines
  up_to : ∀ lines, Cuts stream lines →
    ∃ rest, lines = texts.map encode ++ rest ∧ ∀ line ∈ rest.head?, ¬ IsText line
  /-- Nothing is lost if every line is a text. -/
  complete : ∀ lines, Cuts stream lines → (∀ line ∈ lines, IsText line) → lines = texts.map encode

theorem exists_rest (lines : List Bytes) :
    ∃ rest, lines = (decode lines).map encode ++ rest ∧ ∀ line ∈ rest.head?, ¬ IsText line := by
  induction lines with
  | nil => exact ⟨[], rfl, nofun⟩
  | cons line lines ih =>
      cases hline : Utf8.decode? line with
      | none =>
          refine ⟨line :: lines, by simp [decode, hline], fun other hother => ?_⟩
          obtain rfl := Option.some.inj hother
          exact Utf8.decode?_eq_none_iff.mp hline
      | some text =>
          obtain ⟨rest, hrest, hhead⟩ := ih
          refine ⟨rest, ?_, hhead⟩
          simp only [decode, hline, List.map_cons, List.cons_append]
          rw [← hrest, Utf8.decode?_eq_some_iff.mp hline]

theorem forwards_all (stream : Bytes) : Forwards stream (all stream) := by
  have hall : all stream = decode (ofStream stream) := rfl
  obtain ⟨rest, hrest, hhead⟩ := exists_rest (ofStream stream)
  rw [hall]
  constructor
  case has_lines => exact ⟨_, cuts_ofStream stream⟩
  case up_to =>
    intro lines hlines
    obtain rfl := cuts_iff.mp hlines
    exact ⟨rest, hrest, hhead⟩
  case complete =>
    intro lines hlines htexts
    obtain rfl := cuts_iff.mp hlines
    cases rest with
    | nil => rwa [List.append_nil] at hrest
    | cons line rest =>
        refine absurd (htexts line ?_) (hhead line rfl)
        rw [hrest]
        exact List.mem_append_right _ List.mem_cons_self

/-! ## While more may follow -/

theorem split_append (read first more : Bytes) :
    (split read (first ++ more)).1 =
      (split read first).1 ++ (split (split read first).2.reverse more).1 := by
  induction first generalizing read with
  | nil => simp [split]
  | cons b first ih =>
      by_cases hb : b = feed
      · simp [split, hb, ih]
      · simp [split, hb, ih]

theorem decode_prefix (lines more : List Bytes) : decode lines <+: decode (lines ++ more) := by
  induction lines with
  | nil => exact List.nil_prefix
  | cons line lines ih =>
      rw [List.cons_append, decode, decode]
      cases Utf8.decode? line with
      | none => exact List.prefix_rfl
      | some text => exact List.cons_prefix_cons.mpr ⟨rfl, ih⟩

/-- **What has been passed on stays so**, however the stream goes on. -/
theorem finished_prefix_all (stream more : Bytes) : finished stream <+: all (stream ++ more) := by
  have hlines : (split [] stream).1 <+: ofStream (stream ++ more) := by
    have hfirst : (split [] stream).1 <+: (split [] (stream ++ more)).1 := by
      rw [split_append]
      exact List.prefix_append _ _
    rw [ofStream]
    dsimp only
    split_ifs
    · exact hfirst
    · exact hfirst.trans (List.prefix_append _ _)
  obtain ⟨later, hlater⟩ := hlines
  show decode (split [] stream).1 <+: decode (ofStream (stream ++ more))
  rw [← hlater]
  exact decode_prefix _ _

end RunSweep.Lines

namespace RunSweep

open Shell (Process)

/-- What a process has written to one of its outputs. -/
def streamOf (p : Process) (index : ℕ) : Bytes :=
  (p.printed index).toBytes

/-- Following an attempt through its pauses leads to what stands behind them. -/
theorem exists_follow_foldl {σ β α : Type} (stage : α → Stage σ β) (pauses : List α)
    (rest : Attempt σ β) (w : World σ β) :
    ∃ w', (pauses.foldl (fun rest pause => .pending (stage pause) rest) rest).follow w =
      rest.follow w' := by
  induction pauses generalizing rest with
  | nil => exact ⟨w, rfl⟩
  | cons pause pauses ih =>
      obtain ⟨w', hw'⟩ := ih (.pending (stage pause) rest)
      exact ⟨w'.after (stage pause), hw'⟩

/-- **What a process has printed is in the log when it has ended**, behind what was there: of each of its two
outputs, the lines before any that is no text. -/
theorem output_forwarded_up_to_ill_formed (log : AcquisitionLog) (cwd : Location)
    (result : Except Shell.Leap Unit) (p : Process) (w : World Disk AcquisitionLog) :
    ∃ info warn w', (courseOf log cwd result p).follow w = (some (.ok (exitOf result p)), w') ∧
      w'.launcher = { info := log.info ++ info, warn := log.warn ++ warn } ∧
      Lines.Forwards (streamOf p 0) info ∧ Lines.Forwards (streamOf p 1) warn := by
  obtain ⟨w', hfollow⟩ := exists_follow_foldl (pauseStage log cwd) p.pauses
    (.ended { store := { p.disk with cwd }, launcher := log ++
      { info := Lines.all (streamOf p 0), warn := Lines.all (streamOf p 1) }, requests := p.requests }
      (.ok (exitOf result p))) w
  exact ⟨_, _, _, hfollow, rfl, Lines.forwards_all _, Lines.forwards_all _⟩

/-- A process that has printed three lines, of which the second is no text. -/
def garbled : Process :=
  { disk := { nodes := [], cwd := [] }
    outputs := [[{ bytes := Utf8.encode "first\n" ++ [0xFF, Lines.feed] ++ Utf8.encode "late\n" }], []] }

/-- **A line that is a text can be lost**: the third line of that process does not come into the log. -/
theorem late_line_lost :
    ∃ lines, Lines.Cuts (streamOf garbled 0) lines ∧ Utf8.encode "late" ∈ lines ∧
      ∀ (cwd : Location) (w : World Disk AcquisitionLog),
        ((courseOf {} cwd (.ok ()) garbled).follow w).2.launcher = { info := ["first"], warn := [] } := by
  have hlines : Lines.ofStream (streamOf garbled 0) =
      [Utf8.encode "first", [0xFF], Utf8.encode "late"] := by decide
  have hnone : Utf8.decode? [0xFF] = none := by
    rw [Utf8.decode?, Utf8.pieces]
    rfl
  have hall : Lines.all (streamOf garbled 0) = ["first"] := by
    show Lines.decode (Lines.ofStream (streamOf garbled 0)) = _
    rw [hlines]
    simp [Lines.decode, hnone]
  refine ⟨_, Lines.cuts_iff.mpr hlines.symm, by simp, fun cwd w => ?_⟩
  show ({ info := [] ++ Lines.all (streamOf garbled 0), warn := [] } : AcquisitionLog) = _
  rw [hall]
  rfl

end RunSweep
