import RunSweep.Command
import RunSweep.Proofs.Config.Acceptance
import RunSweep.Proofs.Decimal.Shortest

/-!
# The threshold that the acquisition program is given

The program reads its threshold as an integer, and an accepted configuration has a whole one that is not below
zero. It is given as digits alone, which read back as the threshold, however large it is.

Zero is the exception. It has two signs, and with the negative one it is no more below zero than with the
other, so it is accepted; but the sign is written.
-/

namespace RunSweep

open Binary64 Decimal

/-- Zero with a sign. -/
def IsNegativeZero (x : Float) : Prop :=
  x.toBits = 0x8000000000000000

variable {x : Float}

theorem isNegativeZero_iff {negative edge : Bool} {m : ℕ} {e : ℤ}
    (h : ofFloat x = .finite negative m e edge) : IsNegativeZero x ↔ negative = true ∧ m = 0 := by
  have hbits := x.toBits.toNat_lt
  have hzero : IsNegativeZero x ↔ x.toBits.toNat = 2 ^ 63 := by
    rw [IsNegativeZero, ← UInt64.toNat_inj]
    rfl
  rw [hzero]
  simp only [ofFloat, ofBits, Nat.pow_eq] at h
  generalize x.toBits.toNat = bits at h hbits
  split_ifs at h <;> cases h <;> rw [beq_iff_eq] <;> omega

/-- **How a whole number is written that is not below zero.** -/
theorem renderFloat_of_whole (hnonneg : NonNegative x) (hwhole : Whole x) :
    IsNegativeZero x ∧ renderFloat x = "-0" ∨
      ¬ IsNegativeZero x ∧ IsDigits (renderFloat x).toList ∧
        (ofFloat x).value? = some (nearest (ofDigits (renderFloat x).toList)) := by
  obtain ⟨q, hvalue, hq⟩ := hnonneg
  rw [Whole, ← isWhole_iff] at hwhole
  have hsign := (isNegative_iff hvalue).not.mpr hq.not_gt
  rcases hx : ofFloat x with _ | _ | ⟨negative, m, e, edge⟩ <;> rw [hx] at hvalue hwhole hsign
  · cases hvalue
  · cases hvalue
  obtain ⟨hdigits, hread⟩ := magnitude_spec hx (beq_iff_eq.mp hwhole)
  rw [isNegativeZero_iff hx, renderFloat, hx, render]
  cases negative with
  | true =>
      -- a sign, and still not below zero
      have hm : m = 0 := by simpa [isNegative] using hsign
      exact .inl ⟨⟨rfl, hm⟩, by rw [hm]; rfl⟩
  | false =>
      right
      simp only [Bool.false_eq_true, if_false, List.nil_append, String.toList_ofList, false_and]
      exact ⟨not_false, hdigits, by rw [hread, value?]; rfl⟩

namespace Config

/-- The first two arguments of a command. -/
theorem args_command_eq (c : Config) :
    ∃ others, c.command.args = Command.word "-threshold" ::
      Command.word (renderFloat c.acquisition.threshold) :: others :=
  ⟨_, rfl⟩

/-- **The program is given an unsigned integer, and it is the threshold**, unless that is the zero with a
sign. -/
theorem threshold_argument (c : Config) :
    ∃ text others, c.command.args = Command.word "-threshold" :: Command.word text :: others ∧
      (IsNegativeZero c.acquisition.threshold ∧ text = "-0" ∨
        ¬ IsNegativeZero c.acquisition.threshold ∧ IsDigits text.toList ∧
          (ofFloat c.acquisition.threshold).value? = some (nearest (ofDigits text.toList))) := by
  have hacceptable := Draft.acceptable_iff_check.mpr c.valid
  obtain ⟨others, hargs⟩ := c.args_command_eq
  exact ⟨_, others, hargs, renderFloat_of_whole hacceptable.threshold hacceptable.whole⟩

/-- **A threshold with a sign is given with it**: the defaults with a negative zero are accepted, and what
the program is given for a threshold is not made of digits. -/
theorem negative_zero_given_signed :
    ∃ c, ({ acquisition := { threshold := -0.0 } } : Draft).accept = .ok c ∧
      ∃ text others, c.command.args = Command.word "-threshold" :: Command.word text :: others ∧
        ¬ IsDigits text.toList := by
  have hzero : ofFloat (-0.0) = .finite true 0 (-1074) false := rfl
  have hvalue : (ofFloat (-0.0)).value? = some 0 := by simp [hzero, value?]
  obtain ⟨c, hc⟩ := (Draft.acceptable_default.withThreshold ⟨0, hvalue, le_rfl⟩
    ⟨0, by rw [hvalue, Int.cast_zero]⟩).exists_accepted
  refine ⟨c, hc, ?_⟩
  obtain ⟨others, hargs⟩ := c.args_command_eq
  refine ⟨_, others, hargs, fun hdigits => ?_⟩
  have hsigned : renderFloat c.acquisition.threshold = "-0" := by
    rw [Draft.accept_eq_ok_iff.mp hc, renderFloat, hzero]
    rfl
  rw [hsigned] at hdigits
  exact absurd (hdigits.all '-' (by simp)) (by decide)

end Config

end RunSweep
