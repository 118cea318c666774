import Mathlib.Algebra.Ring.Nat
import Mathlib.Data.List.Range
import RunSweep.Proofs.Loop.Steps

/-!
# Calls in any order

The loop begins its iterations and finishes them in turn, but `Progress` does not rely on that. Here it is
called in any order and any number of times, and what it says of the past is true all the same. `Tally` is
the invariant: it compares the progress with the replies so far, and every call keeps it.

The counter has 64 bits. With a limit it cannot wrap around, since the loop stops there. Without one it
does not as long as fewer than 2⁶⁴ - 1 iterations are finished.
-/

namespace RunSweep.Progress

/-- A call on the progress of a loop. -/
inductive Call where
  | begin
  | finish
  | stop (reason : StopReason)
  deriving DecidableEq

/-- What a call is answered. -/
inductive Reply where
  | began (index : UInt64)
  | finished (phase : Phase)
  | stopped
  | refused (e : RunError)

namespace Reply

/-- The index of the iteration that was begun. -/
def index? : Reply → Option UInt64
  | began index => some index
  | _ => none

/-- Whether an iteration was finished. -/
def isFinished : Reply → Bool
  | finished _ => true
  | _ => false

/-- Whether the call was refused. -/
def isRefused : Reply → Bool
  | refused _ => true
  | _ => false

/-- The indices of the iterations that were begun, in order. -/
def indices (rs : List Reply) : List UInt64 :=
  rs.filterMap index?

/-- How many iterations were finished. -/
def finishes (rs : List Reply) : ℕ :=
  rs.countP isFinished

theorem indices_concat (rs : List Reply) (r : Reply) :
    indices (rs ++ [r]) = indices rs ++ r.index?.toList := by
  rw [indices, List.filterMap_append]
  cases h : r.index? <;> simp [indices, h]

theorem finishes_append (rs more : List Reply) :
    finishes (rs ++ more) = finishes rs + finishes more :=
  List.countP_append

theorem finishes_concat (rs : List Reply) (r : Reply) :
    finishes (rs ++ [r]) = finishes rs + r.isFinished.toNat := by
  rw [finishes_append]
  cases h : r.isFinished <;> simp [finishes, h]

end Reply

open Reply (indices finishes)

/-- Make a call. One that is refused leaves the progress as it is. -/
def call (p : Progress) : Call → Reply × Progress
  | .begin =>
      match p.begin with
      | .ok (index, q) => (.began index, q)
      | .error e => (.refused e, p)
  | .finish =>
      match p.finish with
      | .ok q => (.finished q.phase, q)
      | .error e => (.refused e, p)
  | .stop reason => (.stopped, p.stop reason)

/-- The progress after some calls. -/
def after (p : Progress) : List Call → Progress
  | [] => p
  | c :: later => (p.call c).2.after later

/-- What the calls are answered. -/
def replies (p : Progress) : List Call → List Reply
  | [] => []
  | c :: later => (p.call c).1 :: (p.call c).2.replies later

theorem after_append (p : Progress) (cs more : List Call) :
    p.after (cs ++ more) = (p.after cs).after more := by
  induction cs generalizing p with
  | nil => rfl
  | cons c later ih => exact ih _

theorem replies_append (p : Progress) (cs more : List Call) :
    p.replies (cs ++ more) = p.replies cs ++ (p.after cs).replies more := by
  induction cs generalizing p with
  | nil => rfl
  | cons c later ih => exact congrArg ((p.call c).1 :: ·) (ih _)

/-! ## One call -/

/-- **What a call can do.** -/
inductive Outcome (p : Progress) : Call → Reply → Progress → Prop where
  | stops (reason : StopReason) : Outcome p (.stop reason) .stopped (p.stop reason)
  | begins (hrunning : p.phase = .running) (hidle : p.underWay = false) :
      Outcome p .begin (.began (p.completed + 1)) { p with underWay := true }
  | finishes (hrunning : p.phase = .running) (hbusy : p.underWay = true) :
      Outcome p .finish (.finished p.finished.phase) p.finished
  | refusesBegin (h : p.phase = .stopped ∨ p.underWay = true) :
      Outcome p .begin (.refused (.invalidTransition p.phase)) p
  | refusesFinish (h : p.phase = .stopped ∨ p.underWay = false) :
      Outcome p .finish (.refused (.invalidTransition p.phase)) p

variable {p q : Progress} {plan : Plan} {rs : List Reply} {c : Call} {r : Reply}

theorem begin_of_refused (h : p.phase = .stopped ∨ p.underWay = true) :
    p.begin = .error (.invalidTransition p.phase) := by
  rw [begin, if_pos (by simpa using h)]

theorem finish_of_refused (h : p.phase = .stopped ∨ p.underWay = false) :
    p.finish = .error (.invalidTransition p.phase) := by
  rw [finish, if_pos (by simpa using h)]

theorem running_of_not_stopped (h : p.phase ≠ .stopped) : p.phase = .running := by
  cases hphase : p.phase with
  | running => rfl
  | stopped => exact absurd hphase h

theorem outcome_call (p : Progress) (c : Call) : Outcome p c (p.call c).1 (p.call c).2 := by
  cases c with
  | stop reason => exact .stops reason
  | begin =>
      by_cases h : p.phase = .stopped ∨ p.underWay = true
      · rw [call, begin_of_refused h]
        exact .refusesBegin h
      · obtain ⟨hphase, hidle⟩ := not_or.mp h
        rw [Bool.not_eq_true] at hidle
        rw [call, begin_of_idle (running_of_not_stopped hphase) hidle]
        exact .begins (running_of_not_stopped hphase) hidle
  | finish =>
      by_cases h : p.phase = .stopped ∨ p.underWay = false
      · rw [call, finish_of_refused h]
        exact .refusesFinish h
      · obtain ⟨hphase, hbusy⟩ := not_or.mp h
        rw [Bool.not_eq_false] at hbusy
        rw [call, finish_of_busy (running_of_not_stopped hphase) hbusy]
        exact .finishes (running_of_not_stopped hphase) hbusy

/-- To begin is refused exactly if the loop has stopped or an iteration is under way. -/
theorem isRefused_begin : (p.call .begin).1.isRefused = true ↔ p.phase = .stopped ∨ p.underWay = true := by
  have hcall := p.outcome_call .begin
  generalize (p.call .begin).1 = r, (p.call .begin).2 = q at hcall ⊢
  cases hcall with
  | begins hrunning hidle => simp [Reply.isRefused, hrunning, hidle]
  | refusesBegin h => simp [Reply.isRefused, h]

/-- To finish is refused exactly if the loop has stopped or no iteration is under way. -/
theorem isRefused_finish :
    (p.call .finish).1.isRefused = true ↔ p.phase = .stopped ∨ p.underWay = false := by
  have hcall := p.outcome_call .finish
  generalize (p.call .finish).1 = r, (p.call .finish).2 = q at hcall ⊢
  cases hcall with
  | finishes hrunning hbusy => simp [Reply.isRefused, hrunning, hbusy]
  | refusesFinish h => simp [Reply.isRefused, h]

/-- A call that is refused changes nothing, and the refusal names the phase. -/
theorem eq_of_refused {e : RunError} (h : (p.call c).1 = .refused e) :
    (p.call c).2 = p ∧ e = .invalidTransition p.phase := by
  have hcall := p.outcome_call c
  generalize (p.call c).1 = r, (p.call c).2 = q at hcall h ⊢
  cases hcall with
  | stops | begins | finishes => cases h
  | refusesBegin | refusesFinish =>
      cases h
      exact ⟨rfl, rfl⟩

/-! ## The tally -/

/-- **The progress and the replies**, as far as the calls have come. -/
structure Tally (plan : Plan) (rs : List Reply) (p : Progress) : Prop where
  plan_eq : p.plan = plan
  stopped_iff : p.phase = .stopped ↔ p.stopReason ≠ none
  idle_of_stopped : p.phase = .stopped → p.underWay = false
  completed_eq : p.completed.toNat = finishes rs
  indices_eq : (indices rs).map UInt64.toNat = List.range' 1 (indices rs).length
  begun_eq : p.phase = .running → (indices rs).length = finishes rs + p.underWay.toNat
  below : p.phase = .running → ∀ limit, plan.limit = some limit → p.completed < limit
  reached : ∀ limit, plan.limit = some limit →
    p.completed < limit ∨ p.completed = limit ∧ p.stopReason = some .iterationLimit

namespace Tally

theorem fresh (hlimit : plan.limit ≠ some 0) : Tally plan [] { plan } := by
  have hpos : ∀ limit, plan.limit = some limit → 0 < limit := fun limit h =>
    UInt64.pos_iff_ne_zero.mpr fun hzero => hlimit (hzero ▸ h)
  constructor
  case below => exact fun _ => hpos
  case reached => exact fun limit h => .inl (hpos limit h)
  all_goals simp [indices, finishes]

theorem stopReason_of_running (h : Tally plan rs p) (hrunning : p.phase = .running) :
    p.stopReason = none := by
  by_contra hreason
  exact absurd (hrunning.symm.trans (h.stopped_iff.mpr hreason)) nofun

/-- **There is room for one more.** The counter is below a limit, or it counts fewer than it can. -/
theorem room (h : Tally plan rs p) (hfew : plan.limit = none → finishes rs < 2 ^ 64 - 1)
    (hrunning : p.phase = .running) : p.completed.toNat + 1 < 2 ^ 64 := by
  cases hlimit : plan.limit with
  | none =>
      have := hfew hlimit
      rw [h.completed_eq]
      omega
  | some limit =>
      have hlt := UInt64.lt_iff_toNat_lt.mp (h.below hrunning limit hlimit)
      have hsize := limit.toNat_lt
      omega

theorem toNat_next (h : Tally plan rs p) (hfew : plan.limit = none → finishes rs < 2 ^ 64 - 1)
    (hrunning : p.phase = .running) : (p.completed + 1).toNat = p.completed.toNat + 1 := by
  rw [UInt64.toNat_add, UInt64.toNat_one, Nat.mod_eq_of_lt (h.room hfew hrunning)]

/-- A reply that tells of no iteration does not count. -/
theorem of_idle_reply (h : Tally plan rs p) (hindex : r.index? = none)
    (hfinished : r.isFinished = false) : Tally plan (rs ++ [r]) p := by
  have hindices : indices (rs ++ [r]) = indices rs := by
    rw [Reply.indices_concat, hindex]
    exact List.append_nil _
  have hfinishes : finishes (rs ++ [r]) = finishes rs := by
    rw [Reply.finishes_concat, hfinished]
    rfl
  constructor
  case completed_eq => rw [hfinishes, h.completed_eq]
  case indices_eq => rw [hindices, h.indices_eq]
  case begun_eq => rw [hindices, hfinishes]; exact h.begun_eq
  case plan_eq => exact h.plan_eq
  case stopped_iff => exact h.stopped_iff
  case idle_of_stopped => exact h.idle_of_stopped
  case below => exact h.below
  case reached => exact h.reached

/-- To stop changes nothing about what was counted, and the first reason for it stands. -/
theorem stop (h : Tally plan rs p) (reason : StopReason) : Tally plan rs (p.stop reason) := by
  have hstopped : (p.stop reason).phase ≠ .running := by simp [Progress.stop]
  constructor
  case plan_eq => exact h.plan_eq
  case completed_eq => exact h.completed_eq
  case indices_eq => exact h.indices_eq
  case stopped_iff => simp [Progress.stop]
  case idle_of_stopped => exact fun _ => rfl
  case begun_eq => exact fun hrunning => absurd hrunning hstopped
  case below => exact fun hrunning => absurd hrunning hstopped
  case reached =>
    intro limit hlimit
    rcases h.reached limit hlimit with hlt | ⟨hat, hreason⟩
    · exact .inl hlt
    · refine .inr ⟨hat, ?_⟩
      rw [Progress.stop, hreason]
      rfl

/-- As many iterations were begun before as were finished, so the next one has the next number. -/
theorem begin (h : Tally plan rs p) (hfew : plan.limit = none → finishes rs < 2 ^ 64 - 1)
    (hrunning : p.phase = .running) (hidle : p.underWay = false) :
    Tally plan (rs ++ [.began (p.completed + 1)]) { p with underWay := true } := by
  have hbegun : (indices rs).length = p.completed.toNat := by
    rw [h.begun_eq hrunning, hidle, h.completed_eq]
    rfl
  have hindices : indices (rs ++ [.began (p.completed + 1)]) = indices rs ++ [p.completed + 1] :=
    Reply.indices_concat ..
  have hfinishes : finishes (rs ++ [.began (p.completed + 1)]) = finishes rs :=
    Reply.finishes_concat ..
  constructor
  case plan_eq => exact h.plan_eq
  case completed_eq => rw [hfinishes, h.completed_eq]
  case stopped_iff => exact h.stopped_iff
  case idle_of_stopped => exact fun hstopped => absurd (hrunning.symm.trans hstopped) nofun
  case below => exact h.below
  case reached => exact h.reached
  case begun_eq =>
    intro _
    rw [hindices, List.length_append, hbegun, hfinishes, h.completed_eq]
    rfl
  case indices_eq =>
    rw [hindices, List.map_append, h.indices_eq, List.map_singleton, h.toNat_next hfew hrunning,
      List.length_append, List.length_singleton, List.range'_concat, hbegun, Nat.one_mul,
      Nat.add_comm 1]

/-- An iteration that is finished is counted, and the loop stops exactly at its limit. -/
theorem finish (h : Tally plan rs p) (hfew : plan.limit = none → finishes rs < 2 ^ 64 - 1)
    (hrunning : p.phase = .running) (hbusy : p.underWay = true) (phase : Phase) :
    Tally plan (rs ++ [.finished phase]) p.finished := by
  have hindices : indices (rs ++ [.finished phase]) = indices rs :=
    (Reply.indices_concat ..).trans (List.append_nil _)
  have hfinishes : finishes (rs ++ [.finished phase]) = finishes rs + 1 :=
    Reply.finishes_concat ..
  obtain ⟨hplan, hcompleted, hidle, hcases⟩ :=
    finished_cases hrunning (h.stopReason_of_running hrunning)
  rw [h.plan_eq] at hplan hcases
  constructor
  case plan_eq => exact hplan
  case completed_eq => rw [hcompleted, h.toNat_next hfew hrunning, hfinishes, h.completed_eq]
  case indices_eq => rw [hindices, h.indices_eq]
  case idle_of_stopped => exact fun _ => hidle
  case begun_eq =>
    intro _
    rw [hindices, hfinishes, h.begun_eq hrunning, hidle, hbusy]
    rfl
  case stopped_iff =>
    rcases hcases with ⟨-, hphase, hreason⟩ | ⟨-, hphase, hreason⟩ <;> simp [hphase, hreason]
  case below =>
    intro hphase limit hlimit
    rcases hcases with ⟨-, hstopped, -⟩ | ⟨hlt, -, -⟩
    · exact absurd (hphase.symm.trans hstopped) nofun
    · exact hcompleted ▸ hlt limit hlimit
  case reached =>
    intro limit hlimit
    rw [hcompleted]
    rcases hcases with ⟨⟨limit', hlimit', hle⟩, -, hreason⟩ | ⟨hlt, -, -⟩
    -- as fewer were finished before, the limit is met exactly
    · obtain rfl := Option.some.inj (hlimit.symm.trans hlimit')
      have hlt := UInt64.lt_iff_toNat_lt.mp (h.below hrunning limit hlimit)
      have hle' := UInt64.le_iff_toNat_le.mp hle
      refine .inr ⟨UInt64.toNat_inj.mp ?_, hreason⟩
      rw [h.toNat_next hfew hrunning] at hle' ⊢
      omega
    · exact .inl (hlt limit hlimit)

/-- **Every call keeps the tally.** -/
theorem next (h : Tally plan rs p) (hfew : plan.limit = none → finishes rs < 2 ^ 64 - 1)
    (hcall : Outcome p c r q) : Tally plan (rs ++ [r]) q := by
  cases hcall with
  | stops reason => exact (h.stop reason).of_idle_reply rfl rfl
  | begins hrunning hidle => exact h.begin hfew hrunning hidle
  | finishes hrunning hbusy => exact h.finish hfew hrunning hbusy _
  | refusesBegin | refusesFinish => exact h.of_idle_reply rfl rfl

/-- **So do any number of calls.** -/
theorem after (h : Tally plan rs p) (cs : List Call)
    (hfew : plan.limit = none → finishes (rs ++ p.replies cs) < 2 ^ 64 - 1) :
    Tally plan (rs ++ p.replies cs) (p.after cs) := by
  induction cs generalizing rs p with
  | nil => rw [replies, List.append_nil]; exact h
  | cons c later ih =>
      rw [replies, List.append_cons] at hfew ⊢
      refine ih (h.next (fun hnone => ?_) (p.outcome_call c)) hfew
      have := hfew hnone
      rw [Reply.finishes_append, Reply.finishes_concat] at this
      omega

/-- No call changes a loop that has stopped. -/
theorem eq_of_stopped (h : Tally plan rs p) (hstopped : p.phase = .stopped)
    (hcall : Outcome p c r q) : q = p := by
  cases hcall with
  | refusesBegin | refusesFinish => rfl
  | begins hrunning | finishes hrunning => exact absurd (hrunning.symm.trans hstopped) nofun
  | stops reason =>
      obtain ⟨first, hfirst⟩ := Option.ne_none_iff_exists'.mp (h.stopped_iff.mp hstopped)
      rw [Progress.stop, hfirst, ← hstopped, ← h.idle_of_stopped hstopped]
      exact congrArg (fun reason => { p with stopReason := reason }) hfirst.symm

theorem after_of_stopped (h : Tally plan rs p) (hstopped : p.phase = .stopped) (cs : List Call) :
    p.after cs = p := by
  induction cs with
  | nil => rfl
  | cons c later ih => rw [Progress.after, h.eq_of_stopped hstopped (p.outcome_call c), ih]

end Tally

/-! ## The record that the progress keeps -/

/-- **What the progress says after some calls is true of the replies**, and of those that it gives next. -/
structure Truthful (plan : Plan) (rs : List Reply) (p : Progress) : Prop where
  /-- The loop has stopped if and only if there is a reason. -/
  stopped_iff : p.phase = .stopped ↔ p.stopReason ≠ none
  /-- Once stopped, it is not changed any more. -/
  final : p.phase = .stopped → ∀ more, p.after more = p
  /-- The counter tells how many iterations were finished. -/
  completed_eq : p.completed.toNat = finishes rs
  /-- The iterations that were begun are numbered from one on. -/
  indices_eq : (indices rs).map UInt64.toNat = List.range' 1 (indices rs).length
  /-- An iteration is under way if it was begun and neither finished nor stopped. -/
  underWay_iff : p.underWay = true ↔
    p.phase = .running ∧ (indices rs).length = finishes rs + 1
  begin_refused_iff : (p.call .begin).1.isRefused = true ↔ p.phase = .stopped ∨ p.underWay = true
  finish_refused_iff : (p.call .finish).1.isRefused = true ↔ p.phase = .stopped ∨ p.underWay = false
  refused : ∀ c e, (p.call c).1 = .refused e → (p.call c).2 = p ∧ e = .invalidTransition p.phase
  below : p.phase = .running → ∀ limit, plan.limit = some limit → p.completed < limit
  /-- The limit is not passed, and if it is met, then the loop has stopped for this reason. -/
  reached : ∀ limit, plan.limit = some limit →
    p.completed ≤ limit ∧
      (p.completed = limit → p.phase = .stopped ∧ p.stopReason = some .iterationLimit)
  /-- Counting one more does not wrap around wherever it may be done. -/
  room : p.phase = .running → p.completed.toNat + 1 < 2 ^ 64

/-- **Calls in any order, with any reasons, leave a truthful record.** -/
theorem calls_leave_record (plan : Plan) (hlimit : plan.limit ≠ some 0) (cs : List Call)
    (hfew : plan.limit = none → finishes (replies { plan } cs) < 2 ^ 64 - 1) :
    Truthful plan (replies { plan } cs) (after { plan } cs) := by
  have h : Tally plan (replies { plan } cs) (after { plan } cs) := (Tally.fresh hlimit).after cs hfew
  generalize replies { plan } cs = rs, after { plan } cs = p at h hfew
  constructor
  case stopped_iff => exact h.stopped_iff
  case final => exact h.after_of_stopped
  case completed_eq => exact h.completed_eq
  case indices_eq => exact h.indices_eq
  case underWay_iff =>
    refine ⟨fun hbusy => ?_, fun ⟨hrunning, hbegun⟩ => ?_⟩
    · have hrunning := running_of_not_stopped fun hstopped =>
        absurd (hbusy.symm.trans (h.idle_of_stopped hstopped)) nofun
      exact ⟨hrunning, by rw [h.begun_eq hrunning, hbusy]; rfl⟩
    · rw [h.begun_eq hrunning] at hbegun
      exact Bool.toNat_eq_one.mp (Nat.add_left_cancel hbegun)
  case begin_refused_iff => exact isRefused_begin
  case finish_refused_iff => exact isRefused_finish
  case refused => exact fun _ _ => eq_of_refused
  case below => exact h.below
  case reached =>
    intro limit hlimit
    rcases h.reached limit hlimit with hlt | ⟨hat, hreason⟩
    · exact ⟨UInt64.le_of_lt hlt, fun hat => absurd hat (UInt64.ne_of_lt hlt)⟩
    · exact ⟨UInt64.le_of_eq hat, fun _ =>
        ⟨h.stopped_iff.mpr (hreason ▸ nofun), hreason⟩⟩
  case room => exact h.room hfew

/-- Calls out of turn: one iteration is finished before any is begun, one is begun twice, and the loop is
stopped twice while one is under way. -/
def outOfTurn : List Call :=
  [.finish, .begin, .begin, .finish, .begin, .stop .shutdownRequested, .stop .fault, .finish]

/-- Of the two iterations that are begun one is finished, and the first reason stands. -/
theorem outOfTurn_leaves_record :
    ({ } : Plan).limit ≠ some 0 ∧ finishes (replies { plan := {} } outOfTurn) < 2 ^ 64 - 1 ∧
      Truthful {} (replies { plan := {} } outOfTurn) (after { plan := {} } outOfTurn) ∧
      indices (replies { plan := {} } outOfTurn) = [1, 2] ∧
      after { plan := {} } outOfTurn =
        { plan := {}, phase := .stopped, completed := 1, stopReason := some .shutdownRequested } := by
  have hfew : finishes (replies { plan := {} } outOfTurn) < 2 ^ 64 - 1 := by decide
  exact ⟨nofun, hfew, calls_leave_record {} nofun outOfTurn fun _ => hfew, by decide, by decide⟩

end RunSweep.Progress
