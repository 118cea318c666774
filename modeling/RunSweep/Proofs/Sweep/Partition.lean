import RunSweep.Proofs.Sweep.Conservation
import RunSweep.Proofs.Sweep.Listing

/-!
# A report deals out a listing

Nothing is assumed of the store in the first part: a listed path with a name has one outcome, whatever
the store answers and whatever it was asked before, and a report sorts the names by their outcomes. So
its four lists are a listing dealt out, each in the order of the paths. In a tree that edits lead to, no
name is listed twice, and the order of the paths is that of the names' bytes.
-/

namespace RunSweep

/-- **A list dealt out to four others**: every element goes to one of them, and stays in order there. -/
inductive Dealt {α : Type} : List α → List α → List α → List α → List α → Prop where
  | nil : Dealt [] [] [] [] []
  | first {a : α} {all w x y z : List α} : Dealt all w x y z → Dealt (a :: all) (a :: w) x y z
  | second {a : α} {all w x y z : List α} : Dealt all w x y z → Dealt (a :: all) w (a :: x) y z
  | third {a : α} {all w x y z : List α} : Dealt all w x y z → Dealt (a :: all) w x (a :: y) z
  | fourth {a : α} {all w x y z : List α} : Dealt all w x y z → Dealt (a :: all) w x y (a :: z)

namespace Dealt

variable {α : Type} {all w x y z : List α}

/-- Nothing is lost or doubled. -/
theorem perm (h : Dealt all w x y z) : (w ++ x ++ y ++ z).Perm all := by
  induction h with
  | nil => exact .nil
  | first _ ih => exact ih.cons _
  | second _ ih =>
      simp only [List.append_assoc] at ih ⊢
      exact List.perm_middle.trans (ih.cons _)
  | third _ ih =>
      rw [List.append_assoc, List.cons_append] at *
      exact List.perm_middle.trans (ih.cons _)
  | fourth _ ih => exact List.perm_middle.trans (ih.cons _)

/-- The four lists are in order. -/
theorem sublists (h : Dealt all w x y z) :
    w.Sublist all ∧ x.Sublist all ∧ y.Sublist all ∧ z.Sublist all := by
  induction h with
  | nil => simp
  | first _ ih =>
      obtain ⟨hw, hx, hy, hz⟩ := ih
      exact ⟨hw.cons_cons _, hx.cons _, hy.cons _, hz.cons _⟩
  | second _ ih =>
      obtain ⟨hw, hx, hy, hz⟩ := ih
      exact ⟨hw.cons _, hx.cons_cons _, hy.cons _, hz.cons _⟩
  | third _ ih =>
      obtain ⟨hw, hx, hy, hz⟩ := ih
      exact ⟨hw.cons _, hx.cons _, hy.cons_cons _, hz.cons _⟩
  | fourth _ ih =>
      obtain ⟨hw, hx, hy, hz⟩ := ih
      exact ⟨hw.cons _, hx.cons _, hy.cons _, hz.cons_cons _⟩

theorem sublist (h : Dealt all w x y z) {part : List α} (hpart : part ∈ [w, x, y, z]) :
    part.Sublist all := by
  obtain ⟨hw, hx, hy, hz⟩ := h.sublists
  simp only [List.mem_cons, List.not_mem_nil, or_false] at hpart
  rcases hpart with rfl | rfl | rfl | rfl <;> assumption

end Dealt

/-- **A report deals out the names that were handled.** -/
theorem Report.dealt (r : Report) :
    Dealt (r.entries.map Prod.fst) r.archived r.deleted r.skipped (r.failures.map Prod.fst) := by
  obtain ⟨entries⟩ := r
  induction entries with
  | nil => exact .nil
  | cons entry entries ih =>
      obtain ⟨name, _ | _ | _ | mishap⟩ := entry
      · exact .first ih
      · exact .second ih
      · exact .third ih
      · exact .fourth ih

/-- The names that the four lists hold. -/
theorem Report.entriesSeen_eq (r : Report) : r.entriesSeen = r.entries.length := by
  have hlength := r.dealt.perm.length_eq
  simp only [List.length_append, List.length_map] at hlength
  exact hlength

namespace Sweeper

variable {s : Sweeper}

/-- A sweep that ends well has handled the listing. -/
theorem exists_listing_of_sweep {σ : Type} {fs : FileSystem σ} {store after : σ} {report : Report}
    (h : s.sweep fs store = (.ok report, after)) :
    ∃ paths, (fs.readDir s.workingDir store).1 = .ok paths ∧
      report.entries.map Prod.fst = (inOrder paths).filterMap Path.shownName? := by
  unfold sweep at h
  rcases hread : fs.readDir s.workingDir store with ⟨fault | paths, read⟩ <;> rw [hread] at h
  · cases h
  · refine ⟨paths, rfl, ?_⟩
    rw [← names_handleAll s fs _ { store := read }]
    cases h
    rfl

/-- The lists of a report are increasing if all its names are. -/
theorem inByteOrder_of_report {r : Report} {names part : List String} (h : InByteOrder names)
    (hnames : r.entries.map Prod.fst = names)
    (hpart : part ∈ [r.archived, r.deleted, r.skipped, r.failures.map Prod.fst]) : InByteOrder part :=
  List.Pairwise.sublist (hnames ▸ r.dealt.sublist hpart) h

/-- **The report of a sweep deals out the listing.** Take any store of files, whatever it lists and
whatever it answers to each call, also by what it was asked before. The listed paths that have a name,
put in order, are dealt out to the four lists of the report by their names: each goes to one list, and
is in order there. So the lists hold together as many names as there are listed paths with one. In a tree
that edits lead to, every list is increasing in the bytes of the names, and so holds no name twice. -/
theorem report_deals_out_listing (s : Sweeper) :
    (∀ {σ : Type} (fs : FileSystem σ) (store after : σ) (report : Report),
      s.sweep fs store = (.ok report, after) →
        ∃ paths, (fs.readDir s.workingDir store).1 = .ok paths ∧
          (inOrder paths).Perm paths ∧
          (inOrder paths).Pairwise (fun p q => p.precedes q = true) ∧
          Dealt ((inOrder paths).filterMap Path.shownName?) report.archived report.deleted
            report.skipped (report.failures.map Prod.fst) ∧
          (report.archived ++ report.deleted ++ report.skipped ++ report.failures.map Prod.fst).Perm
            (paths.filterMap Path.shownName?) ∧
          report.entriesSeen = paths.countP (·.fileName?.isSome)) ∧
    ∀ (t after : Tree) (report : Report), t.Reachable →
      s.sweep Tree.fileSystem t = (.ok report, after) →
        ∀ names ∈ [report.archived, report.deleted, report.skipped, report.failures.map Prod.fst],
          names.Nodup ∧ InByteOrder names := by
  constructor
  · intro σ fs store after report h
    obtain ⟨paths, hread, hnames⟩ := exists_listing_of_sweep h
    have hdealt := hnames ▸ report.dealt
    have hperm := (perm_inOrder paths).filterMap Path.shownName?
    refine ⟨paths, hread, perm_inOrder paths, pairwise_inOrder paths, hdealt,
      hdealt.perm.trans hperm, ?_⟩
    calc report.entriesSeen
        = (report.entries.map Prod.fst).length := by rw [report.entriesSeen_eq, List.length_map]
      _ = (paths.filterMap Path.shownName?).length := by rw [hnames, hperm.length_eq]
      _ = paths.countP (·.fileName?.isSome) := by
          rw [List.length_filterMap_eq_countP]
          exact List.countP_congr fun path _ => by rw [Path.shownName?, Option.isSome_map]
  · intro t after report ht h names hpart
    obtain ⟨-, -, listed, horder, -, hnames, hentries, -⟩ := exists_order_of_sweep ht.tidy h
    have hall : report.entries.map Prod.fst = listed := hentries ▸ names_handleNames s hnames _
    have hpart := inByteOrder_of_report horder hall hpart
    exact ⟨hpart.nodup, hpart⟩

/-- A store that lists a file twice and a path without a name, and refuses every other call. -/
def fickle : FileSystem ℕ where
  readDir path calls :=
    (.ok [path.join (Utf8.encode "b.dat"), .ofText "..", path.join (Utf8.encode "a.dat"),
      path.join (Utf8.encode "b.dat")], calls + 1)
  metadata path calls :=
    (if calls % 2 = 0 then .error (.fileNotFound path) else .ok ⟨200000000, false⟩, calls + 1)
  isDir _ calls := (calls % 2 = 0, calls + 1)
  createDirAll path calls := (if calls % 2 = 0 then .error (.fileExists path) else .ok (), calls + 1)
  rename source _ calls :=
    (if calls % 2 = 0 then .error (.fileNotFound source) else .ok (), calls + 1)
  copy source _ calls := (if calls % 2 = 0 then .error (.fileNotFound source) else .ok 0, calls + 1)
  removeFile path calls :=
    (if calls % 2 = 0 then .error (.fileNotFound path) else .ok (), calls + 1)

/-- The three listed paths with a name are told of, and no file of a tree is in a list twice. -/
theorem fickle_report_deals_out :
    (∃ report after, hundredMegabytes.sweep fickle 0 = (.ok report, after) ∧ report.entriesSeen = 3 ∧
      (report.archived ++ report.deleted ++ report.skipped ++ report.failures.map Prod.fst).Perm
        ["b.dat", "a.dat", "b.dat"]) ∧
      ∃ report after, hundredMegabytes.sweep Tree.fileSystem stuckTree = (.ok report, after) ∧
        (report.failures.map Prod.fst).Nodup := by
  constructor
  · have hsweep : ∃ report after, hundredMegabytes.sweep fickle 0 = (.ok report, after) :=
      ⟨_, _, rfl⟩
    obtain ⟨report, after, hsweep⟩ := hsweep
    obtain ⟨paths, hread, -, -, -, hperm, hseen⟩ :=
      (report_deals_out_listing hundredMegabytes).1 fickle 0 after report hsweep
    obtain rfl := Except.ok.inj hread
    have hlisting : List.countP (fun path => path.fileName?.isSome)
          [hundredMegabytes.entryPath "b.dat", .ofText "..", hundredMegabytes.entryPath "a.dat",
            hundredMegabytes.entryPath "b.dat"] = 3 ∧
        [hundredMegabytes.entryPath "b.dat", .ofText "..", hundredMegabytes.entryPath "a.dat",
          hundredMegabytes.entryPath "b.dat"].filterMap Path.shownName? =
            ["b.dat", "a.dat", "b.dat"] := by
      decide +kernel
    exact ⟨report, after, hsweep, hseen.trans hlisting.1, hlisting.2 ▸ hperm⟩
  · have hsweep : ∃ report after,
        hundredMegabytes.sweep Tree.fileSystem stuckTree = (.ok report, after) := by
      rw [sweep_tree, stuckTree_readDir]
      exact ⟨_, _, rfl⟩
    obtain ⟨report, after, hsweep⟩ := hsweep
    have hlists := (report_deals_out_listing hundredMegabytes).2 stuckTree after report
      stuckTree_reachable hsweep
    exact ⟨report, after, hsweep, (hlists _ (by simp)).1⟩

end Sweeper

end RunSweep
