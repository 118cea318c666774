import RunSweep.Proofs.Decimal.Arithmetic

/-!
# Integers as floats

A float stands for an integer if it has the integer's sign and the integer's size, rounded. There is just
one such float, and for an integer of 64 bits it is the one that comes out when the size is converted and
then given the sign.
-/

namespace RunSweep

namespace Binary64

open Float.Model (Format UnpackedFloat)
open Float.Model.UnpackedFloat (Sign)

/-- **The float nearest to an integer.** Zero has no sign. -/
def IsNearest (n : ℤ) (x : Float) : Prop :=
  ∃ m e edge, ofFloat x = .finite (decide (n < 0)) m e edge ∧ Rounded |(n : ℚ)| (m * 2 ^ e)

/-! ## There is one -/

/-- A count other than zero becomes a float that is written canonically and is not too large. -/
theorem exists_unpack_toFloat {n : UInt64} (hn : 0 < n.toNat) :
    ∃ m e, ∃ hm : 0 < m, n.toFloat.toModel.unpack = .finite .positive m e hm ∧ Canonical m e ∧
      e ≤ 971 ∧ m * 2 ^ e = nearest n.toNat := by
  have hlarge := nearest_toNat_lt n
  have hpos : 0 < nearest n.toNat := by
    have hone : Representable 1 := by exact_mod_cast representable_natCast (n := 1) (by norm_num)
    calc (0 : ℚ) < 1 := one_pos
      _ = nearest 1 := (nearest_of_representable zero_le_one hone).symm
      _ ≤ nearest n.toNat := nearest_mono zero_le_one (by exact_mod_cast hn)
  have h := holds_toFloat n
  generalize nearest n.toNat = y at hlarge hpos h
  generalize n.toFloat.toModel.unpack = u at h
  cases h with
  | zero sign => exact absurd hpos (lt_irrefl _)
  | finite hm hcanonical => exact ⟨_, _, hm, rfl, hcanonical, hcanonical.exponent_le hm hlarge, rfl⟩

/-- The float of a count is nearest to it. -/
theorem isNearest_toFloat (n : UInt64) : IsNearest n.toNat n.toFloat := by
  have hsign : decide (((n.toNat : ℕ) : ℤ) < 0) = false := decide_eq_false (by omega)
  rw [IsNearest, hsign, Int.cast_natCast, Nat.abs_cast]
  rcases Nat.eq_zero_or_pos n.toNat with hzero | hpos
  · obtain rfl : n = 0 := UInt64.toNat_inj.mp hzero
    refine ⟨0, -1074, false, by rfl, ?_⟩
    rw [hzero, Nat.cast_zero, zero_mul, rounded_iff le_rfl, nearest_zero]
  · obtain ⟨m, e, hm, hunpack, -, -, hvalue⟩ := exists_unpack_toFloat hpos
    refine ⟨m, e, _, by rw [ofFloat_eq, hunpack]; rfl, ?_⟩
    rw [hvalue]
    exact rounded_nearest n.toNat.cast_nonneg

/-- The same with a sign in front. -/
theorem isNearest_neg_toFloat {n : UInt64} (hn : 0 < n.toNat) : IsNearest (-n.toNat) (-n.toFloat) := by
  have hsign : decide (-((n.toNat : ℕ) : ℤ) < 0) = true := decide_eq_true (by omega)
  rw [IsNearest, hsign, Int.cast_neg, Int.cast_natCast, abs_neg, Nat.abs_cast]
  obtain ⟨m, e, hm, hunpack, hcanonical, he, hvalue⟩ := exists_unpack_toFloat hn
  have hneg : (-n.toFloat).toModel.unpack = .finite .negative m e hm := by
    change UnpackedFloat.unpack Format.binary64
      (UnpackedFloat.pack Format.binary64 n.toFloat.toModel.unpack.neg) = _
    rw [hunpack]
    exact unpack_pack .negative hm hcanonical he
  refine ⟨m, e, _, by rw [ofFloat_eq, hneg]; rfl, ?_⟩
  rw [hvalue]
  exact rounded_nearest n.toNat.cast_nonneg

/-! ## There is only one -/

/-- A finite value has no other bits. -/
theorem ofBits_inj {a b : ℕ} (ha : a < 2 ^ 64) (hb : b < 2 ^ 64) {negative edge edge' : Bool} {m : ℕ}
    {e : ℤ} (h : ofBits a = .finite negative m e edge) (h' : ofBits b = .finite negative m e edge') :
    a = b := by
  simp only [ofBits, Nat.pow_eq] at h h'
  have hsign (c : ℕ) : (c / 2 ^ 63 % 2 == 1) = decide (c / 2 ^ 63 % 2 = 1) := by rfl
  split_ifs at h h' <;> simp only [finite.injEq, hsign] at h h'
  all_goals
    have hsame : a / 2 ^ 63 % 2 = 1 ↔ b / 2 ^ 63 % 2 = 1 :=
      decide_eq_decide.mp (h.1.trans h'.1.symm)
    omega

/-- Canonical ways to write a number are the same. -/
theorem Canonical.inj {m m' : ℕ} {e e' : ℤ} (h : Canonical m e) (h' : Canonical m' e')
    (heq : (m : ℚ) * 2 ^ e = m' * 2 ^ e') : m = m' ∧ e = e' := by
  have hcompare := h.compare_eq h'
  rw [heq, compare_eq_iff_eq.mpr rfl, Ordering.then_eq_eq, compare_eq_iff_eq, compare_eq_iff_eq]
    at hcompare
  exact ⟨hcompare.2, hcompare.1⟩

theorem IsNearest.unique {n : ℤ} {x y : Float} (h : IsNearest n x) (h' : IsNearest n y) : x = y := by
  obtain ⟨m, e, edge, hx, hround⟩ := h
  obtain ⟨m', e', edge', hy, hround'⟩ := h'
  have hwell := wellFormed_ofFloat x
  have hwell' := wellFormed_ofFloat y
  rw [hx] at hwell
  rw [hy] at hwell'
  obtain ⟨rfl, rfl⟩ := Canonical.inj hwell hwell' (hround.unique hround')
  have hbits := ofBits_inj x.toBits.toNat_lt y.toBits.toNat_lt hx hy
  have hbits : x.toModel.toBits = y.toModel.toBits := UInt64.toNat_inj.mp hbits
  rcases x with ⟨⟨_, _⟩⟩
  rcases y with ⟨⟨_, _⟩⟩
  cases hbits
  rfl

end Binary64

end RunSweep
