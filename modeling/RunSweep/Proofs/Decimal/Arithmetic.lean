import Mathlib
import RunSweep.Proofs.Decimal.Value

/-!
# The arithmetic of floats that are not below zero

A count becomes a float, and two floats are multiplied, in the same three steps: the exact mantissa is
shifted until it fits, with a round bit and a sticky bit for what is shifted out; it is rounded by these
bits; and if that gave it one bit more than fits, it is shifted once more.

`Reads` is what the two bits say, and it survives a shift, so what the second step rounds to is
`halfEven`. Hence the three steps are `nearest`: a count and a product are the exact numbers, rounded.

The lemmas about packed floats (`unpackSign_packComponents` and the like) come with the whole of Mathlib
only.
-/

namespace RunSweep

namespace Binary64

open Float.Model (Format UnpackedFloat totalExponent)
open Float.Model.UnpackedFloat (ExtendedMantissa Sign packComponents roundWithAccuracy shiftToExponent
  shiftToTargetExponent unpackExponent_packComponents unpackMantissa_packComponents
  unpackSign_packComponents)

/-! ## Round bit and sticky bit -/

/-- What is left of `x` after the mantissa and the half that a round bit stands for. -/
def rest (em : ExtendedMantissa) (x : ℚ) : ℚ :=
  x - em.mantissa - if em.roundBit then 1 / 2 else 0

/-- **A mantissa with its two bits stands for `x`**: what is left is below a half, and the sticky bit says
whether anything is. -/
structure Reads (em : ExtendedMantissa) (x : ℚ) : Prop where
  rest_nonneg : 0 ≤ rest em x
  rest_lt : rest em x < 1 / 2
  sticky : em.stickyBit = true ↔ rest em x ≠ 0

section Reads

variable {em : ExtendedMantissa} {x : ℚ}

theorem reads_exact (m : ℕ) : Reads ⟨m, false, false⟩ m := by
  constructor <;> simp [rest]

theorem rest_shiftRightOne :
    rest em.shiftRightOne (x / 2) = (rest em x + if em.roundBit then 1 / 2 else 0) / 2 := by
  have hsplit : (em.mantissa : ℚ) = 2 * (em.mantissa / 2 : ℕ) + (em.mantissa % 2 : ℕ) := by
    exact_mod_cast (Nat.div_add_mod em.mantissa 2).symm
  rcases Nat.mod_two_eq_zero_or_one em.mantissa with heven | hodd
  · rw [heven] at hsplit
    simp only [rest, ExtendedMantissa.shiftRightOne, heven, hsplit]
    norm_num
    ring
  · rw [hodd] at hsplit
    simp only [rest, ExtendedMantissa.shiftRightOne, hodd, hsplit]
    norm_num
    ring

/-- A shift halves the number and keeps the account of what is left. -/
theorem Reads.shiftRightOne (h : Reads em x) : Reads em.shiftRightOne (x / 2) := by
  have hnonneg := h.rest_nonneg
  have hlt := h.rest_lt
  have hsticky := h.sticky
  constructor
  case rest_nonneg =>
    rw [rest_shiftRightOne]
    positivity
  case rest_lt =>
    rw [rest_shiftRightOne]
    split_ifs <;> linarith
  case sticky =>
    rw [rest_shiftRightOne, ExtendedMantissa.shiftRightOne, Bool.or_eq_true, hsticky]
    cases em.roundBit with
    | false => simp
    | true => simp; positivity

theorem Reads.shiftRight (h : Reads em x) (k : ℕ) : Reads (em >>> k) (x / 2 ^ k) := by
  change Reads (k.repeat ExtendedMantissa.shiftRightOne em) _
  induction k with
  | zero => simpa [Nat.repeat] using h
  | succ k ih =>
    rw [pow_succ, div_mul_eq_div_div]
    exact ih.shiftRightOne

/-- **The two bits are enough to round by.** -/
theorem Reads.roundedMantissa_eq (h : Reads em x) : em.roundedMantissa = halfEven x := by
  obtain ⟨hnonneg, hlt, hsticky⟩ := h
  rcases em with ⟨m, round, sticky⟩
  cases round <;> cases sticky <;>
    simp only [rest, Bool.false_eq_true, if_true, if_false, ne_eq, false_iff, true_iff, not_not]
      at hsticky hnonneg hlt
  case false.false => exact (halfEven_of_lt (n := m) (by linarith) (by linarith)).symm
  case false.true => exact (halfEven_of_lt (n := m) (by linarith) (by linarith)).symm
  case true.false => exact (halfEven_of_eq (n := m) (by linarith)).symm
  case true.true =>
    have hpos := lt_of_le_of_ne hnonneg (Ne.symm hsticky)
    exact (halfEven_of_gt (n := m) (by linarith) (by linarith)).symm

end Reads

/-! ## The exponent that fits -/

variable {m : ℕ} {e : ℤ} {x : ℚ}

theorem log_mul_zpow (hm : 0 < m) : Int.log 2 ((m : ℚ) * 2 ^ e) = m.log2 + e := by
  have hp := two_zpow_pos e
  have hlo : (2 : ℚ) ^ m.log2 ≤ m := by exact_mod_cast Nat.log2_self_le hm.ne'
  have hhi : (m : ℚ) < 2 ^ (m.log2 + 1) := by exact_mod_cast Nat.lt_log2_self
  refine log_eq ?_ ?_
  · calc (2 : ℚ) ^ ((m.log2 : ℤ) + e) = 2 ^ m.log2 * 2 ^ e := by
          rw [zpow_add₀ two_ne_zero, zpow_natCast]
      _ ≤ m * 2 ^ e := mul_le_mul_of_nonneg_right hlo hp.le
  · calc (m : ℚ) * 2 ^ e < 2 ^ (m.log2 + 1) * 2 ^ e := mul_lt_mul_of_pos_right hhi hp
      _ = 2 ^ ((m.log2 : ℤ) + e + 1) := by
        rw [add_right_comm, zpow_add₀ two_ne_zero]
        norm_cast

/-- The exponent to which a mantissa is shifted is that of the unit around the number. -/
theorem targetExponent_eq (hm : 0 < m) :
    Format.binary64.targetExponent (totalExponent m e) = unitExponent (m * 2 ^ e) := by
  rw [unitExponent, log_mul_zpow hm]
  change max ((m.log2 : ℤ) + 1 + e - 53) (-1074) = _
  congr 1
  omega

/-- A mantissa that fits is not shifted. -/
theorem shift_of_canonical (hm : m < 2 ^ 53) (he : -1074 ≤ e) :
    shiftToTargetExponent Format.binary64 m e .exact = (⟨m, false, false⟩, e) := by
  have hlog : m.log2 ≤ 52 := by
    by_cases hzero : m = 0
    · simp [hzero]
    · exact Nat.lt_succ_iff.mp ((Nat.log2_lt hzero).mpr hm)
  have hstay : (Format.binary64.targetExponent (totalExponent m e) - e).toNat = 0 := by
    change (max ((m.log2 : ℤ) + 1 + e - 53) (-1074) - e).toNat = 0
    omega
  simp only [shiftToTargetExponent, shiftToExponent, hstay]
  exact Prod.ext rfl (add_zero e)

/-- A mantissa that has just one bit too many is shifted by one. -/
theorem shift_of_carry (he : -1074 ≤ e) :
    shiftToTargetExponent Format.binary64 (2 ^ 53) e .exact = (⟨2 ^ 52, false, false⟩, e + 1) := by
  have hone : (Format.binary64.targetExponent (totalExponent (2 ^ 53) e) - e).toNat = 1 := by
    rw [totalExponent, Nat.log2_two_pow]
    change (max ((53 : ℤ) + 1 + e - 53) (-1074) - e).toNat = 1
    omega
  simp only [shiftToTargetExponent, shiftToExponent, hone]
  rfl

/-! ## Rounding is `nearest` -/

/-- A float that is taken apart is the number `x`, which is not below zero. -/
inductive Holds : UnpackedFloat → ℚ → Prop
  | zero (sign : Sign) : Holds (.zero sign) 0
  | finite {m : ℕ} {e : ℤ} (hm : 0 < m) (h : Canonical m e) :
      Holds (.finite .positive m e hm) (m * 2 ^ e)

/-- The first shift gives the number in units. -/
theorem reads_first_shift (hm : 0 < m) (he : e ≤ unitExponent (m * 2 ^ e)) :
    ∃ em, shiftToTargetExponent Format.binary64 m e .exact = (em, unitExponent (m * 2 ^ e)) ∧
      Reads em (m * 2 ^ e / 2 ^ unitExponent (m * 2 ^ e)) := by
  obtain ⟨k, hk⟩ : ∃ k : ℕ, unitExponent ((m : ℚ) * 2 ^ e) - e = k :=
    ⟨_, (Int.toNat_of_nonneg (by omega)).symm⟩
  refine ⟨ExtendedMantissa.mk m false false >>> k, ?_, ?_⟩
  · rw [shiftToTargetExponent, targetExponent_eq hm, shiftToExponent, hk]
    exact Prod.ext rfl (by rw [Int.toNat_natCast]; omega)
  · have hunits : (m : ℚ) * 2 ^ e / 2 ^ unitExponent (m * 2 ^ e) = m / 2 ^ k := by
      rw [mul_div_assoc, ← zpow_sub₀ two_ne_zero, ← neg_sub, hk, zpow_neg, zpow_natCast,
        div_eq_mul_inv]
    rw [hunits]
    exact (reads_exact m).shiftRight k

/-- The second shift settles the number. -/
theorem holds_second_shift {em : ExtendedMantissa} {k : ℕ} {u e' : ℤ}
    (hfirst : shiftToTargetExponent Format.binary64 m e .exact = (em, u))
    (hsecond : shiftToTargetExponent Format.binary64 em.roundedMantissa u .exact =
      (⟨k, false, false⟩, e')) (h : Canonical k e') :
    Holds (roundWithAccuracy Format.binary64 .positive m e .exact) (k * 2 ^ e') := by
  simp only [roundWithAccuracy, hfirst, hsecond]
  split_ifs with hzero
  · rw [hzero, Nat.cast_zero, zero_mul]
    exact .zero _
  · exact .finite _ h

/-- **What is rounded by the bits that are shifted out is rounded to the nearest.** -/
theorem holds_round (hm : 0 < m) (he : e ≤ unitExponent (m * 2 ^ e)) :
    Holds (roundWithAccuracy Format.binary64 .positive m e .exact) (nearest (m * 2 ^ e)) := by
  have hx : (0 : ℚ) < m * 2 ^ e := mul_zpow_pos hm e
  obtain ⟨em, hfirst, hreads⟩ := reads_first_shift hm he
  have hrounded := hreads.roundedMantissa_eq
  rw [nearest]
  rcases canonical_nearest hx with hcanonical | hcarry
  · refine holds_second_shift hfirst ?_ hcanonical
    rw [hrounded]
    exact shift_of_canonical hcanonical.mantissa_lt hcanonical.exponent_ge
  · rw [hcarry, carry_eq]
    refine holds_second_shift hfirst ?_ (canonical_carry (le_max_right _ _))
    rw [hrounded, hcarry]
    exact shift_of_carry (le_max_right _ _)

/-! ## Counts and products -/

theorem le_unitExponent (hm : 0 < m) (h : 2 ^ 52 ≤ m ∨ e ≤ -1074) :
    e ≤ unitExponent (m * 2 ^ e) := by
  rw [unitExponent, log_mul_zpow hm]
  rcases h with hfull | hleast
  · have hlog : 52 ≤ m.log2 := (Nat.le_log2 hm.ne').mpr hfull
    omega
  · exact hleast.trans (le_max_right _ _)

/-- A mantissa may first be shifted left: the exponent of the unit depends on the number alone. -/
theorem holds_round_left (hm : 0 < m) :
    Holds (UnpackedFloat.round Format.binary64 .positive m e) (nearest (m * 2 ^ e)) := by
  obtain ⟨k, hk⟩ : ∃ k : ℕ, (e - unitExponent ((m : ℚ) * 2 ^ e)).toNat = k := ⟨_, rfl⟩
  have hsame : ((m <<< k : ℕ) : ℚ) * 2 ^ (e - k) = m * 2 ^ e := by
    rw [Nat.shiftLeft_eq, Nat.cast_mul, Nat.cast_pow, Nat.cast_ofNat, zpow_sub₀ two_ne_zero,
      zpow_natCast]
    field_simp
  simp only [UnpackedFloat.round, UnpackedFloat.decreaseExponent, targetExponent_eq hm, hk]
  rw [← hsame]
  refine holds_round ?_ ?_
  · rw [Nat.shiftLeft_eq]
    positivity
  · rw [hsame]
    omega

theorem holds_ofNat (n : ℕ) : Holds (UnpackedFloat.ofNat Format.binary64 n) (nearest n) := by
  rw [UnpackedFloat.ofNat, UnpackedFloat.ofInt, UnpackedFloat.normalize]
  rcases n.eq_zero_or_pos with rfl | hpos
  · rw [Nat.cast_zero, Nat.cast_zero, nearest_zero]
    exact .zero _
  · rw [compare_gt_iff_gt.mpr (by exact_mod_cast hpos)]
    simpa using holds_round_left (e := 0) hpos

theorem holds_mul {u v : UnpackedFloat} {y z : ℚ} (hu : Holds u y) (hv : Holds v z) :
    Holds (UnpackedFloat.mul Format.binary64 u v) (nearest (y * z)) := by
  cases hu with
  | zero s =>
    rw [zero_mul, nearest_zero]
    cases hv <;> exact .zero _
  | @finite m₁ e₁ hm h =>
    cases hv with
    | zero s' =>
      rw [mul_zero, nearest_zero]
      exact .zero _
    | @finite m₂ e₂ hm' h' =>
      have hproduct : (m₁ : ℚ) * 2 ^ e₁ * (m₂ * 2 ^ e₂) = (m₁ * m₂ : ℕ) * 2 ^ (e₁ + e₂) := by
        rw [zpow_add₀ two_ne_zero]
        push_cast
        ring
      rw [hproduct]
      refine holds_round (Nat.mul_pos hm hm') (le_unitExponent (Nat.mul_pos hm hm') ?_)
      rcases h.full with hfull | hleast
      · exact .inl (hfull.trans (Nat.le_mul_of_pos_right _ hm'))
      · rcases h'.full with hfull' | hleast'
        · exact .inl (hfull'.trans (Nat.le_mul_of_pos_left _ hm))
        · exact .inr (by omega)

/-! ## Packing -/

theorem Canonical.exponent_le (h : Canonical m e) (hm : 0 < m)
    (hx : m * 2 ^ e < (2 : ℚ) ^ (1024 : ℤ)) : e ≤ 971 := by
  by_contra hlarge
  have hfull : 2 ^ 52 ≤ m := h.full.resolve_right (by omega)
  have hlog : 52 ≤ m.log2 := (Nat.le_log2 hm.ne').mpr hfull
  have hpos : (0 : ℚ) < m * 2 ^ e := mul_zpow_pos hm e
  have hsize : Int.log 2 ((m : ℚ) * 2 ^ e) < 1024 :=
    (Int.lt_zpow_iff_log_lt one_lt_two hpos).mp (by rwa [Nat.cast_ofNat])
  rw [log_mul_zpow hm] at hsize
  omega

theorem ofBitVec_toBitVec (s : Sign) : Sign.ofBitVec s.toBitVec = s := by
  cases s <;> rfl

/-- A full mantissa, without its first bit, behind an exponent that is neither of the two special ones. -/
theorem unpack_full (s : Sign) (hm : 0 < m) (hfull : 2 ^ 52 ≤ m) (hlt : m < 2 ^ 53) {biased : ℕ}
    (hbiased : e + 1075 = biased) (hlo : -1075 < e) (hhi : e ≤ 971) :
    UnpackedFloat.unpack Format.binary64
        (packComponents _ s (BitVec.ofNat 11 biased) (BitVec.ofNat 52 m)) =
      .finite s m e hm := by
  have hmantissa : (1#1 ++ BitVec.ofNat 52 m).toNat = m := by
    rw [toNat_implicit, BitVec.toNat_ofNat]
    omega
  have hfits : (BitVec.ofNat 11 biased).toNat = biased := by
    rw [BitVec.toNat_ofNat]
    omega
  have hleast : BitVec.ofNat 11 biased ≠ 0#11 := by
    rw [ne_eq, ← BitVec.toNat_inj, hfits, BitVec.toNat_ofNat]
    omega
  have hmost : BitVec.ofNat 11 biased ≠ -1#11 := by
    rw [ne_eq, ← BitVec.toNat_inj, hfits, show (-1#11).toNat = 2047 by rfl]
    omega
  have hexponent : (biased : ℤ) - ((1023 : ℕ) + (52 : ℕ)) = e := by omega
  unfold UnpackedFloat.unpack
  simp only [unpackExponent_packComponents, unpackMantissa_packComponents,
    unpackSign_packComponents, ofBitVec_toBitVec, hleast, hmost, hmantissa, hfits, if_false]
  exact congrArg (fun e => UnpackedFloat.finite s m e hm) hexponent

/-- Another mantissa behind the least exponent. -/
theorem unpack_low (s : Sign) (hm : 0 < m) (hlt : m < 2 ^ 52) :
    UnpackedFloat.unpack Format.binary64 (packComponents _ s 0#11 (BitVec.ofNat 52 m)) =
      .finite s m (-1074) hm := by
  have hmantissa : (BitVec.ofNat 52 m).toNat = m := by
    rw [BitVec.toNat_ofNat]
    omega
  have hne : BitVec.ofNat 52 m ≠ 0#52 := by
    rw [ne_eq, ← BitVec.toNat_inj, hmantissa]
    exact hm.ne'
  have hmost : 0#11 ≠ -1#11 := by decide
  unfold UnpackedFloat.unpack
  simp only [unpackExponent_packComponents, unpackMantissa_packComponents,
    unpackSign_packComponents, ofBitVec_toBitVec, hmost, hne, hmantissa, if_false, if_true, dif_neg,
    not_false_eq_true]
  rfl

/-- **A number that is written canonically and is not too large survives packing.** -/
theorem unpack_pack (s : Sign) (hm : 0 < m) (h : Canonical m e) (he : e ≤ 971) :
    UnpackedFloat.unpack Format.binary64 (UnpackedFloat.pack Format.binary64 (.finite s m e hm)) =
      .finite s m e hm := by
  have hleast := h.exponent_ge
  obtain ⟨biased, hbiased⟩ : ∃ k : ℕ, e + 1075 = k := ⟨_, (Int.toNat_of_nonneg (by omega)).symm⟩
  have hexponent : (e + (Format.binary64.exponentBias : ℕ) + (52 : ℕ)).toNat = biased := by
    rw [exponentBias_eq]
    omega
  have hfits : ¬ 2 ^ 11 ≤ biased + 1 := by omega
  have hlog : m.log2 + 1 = Format.binary64.mantissaBits ↔ 2 ^ 52 ≤ m := by
    constructor
    · exact fun hlog => ((Nat.log2_eq_iff hm.ne').mp (Nat.succ.inj hlog)).1
    · exact fun hfull => congrArg (· + 1) ((Nat.log2_eq_iff hm.ne').mpr ⟨hfull, h.mantissa_lt⟩)
  simp only [UnpackedFloat.pack, hexponent, if_neg hfits]
  by_cases hfull : 2 ^ 52 ≤ m
  · rw [if_pos (hlog.mpr hfull)]
    exact unpack_full s hm hfull h.mantissa_lt hbiased (by omega) he
  · obtain rfl : e = -1074 := h.full.resolve_left hfull
    rw [if_neg (hlog.not.mpr hfull)]
    exact unpack_low s hm (not_le.mp hfull)

theorem holds_pack {u : UnpackedFloat} {y : ℚ} (h : Holds u y) (hy : y < 2 ^ (1024 : ℤ)) :
    Holds (Float.Model.pack u).unpack y := by
  cases h with
  | zero s => cases s <;> exact .zero _
  | finite hm h =>
    have hsurvives := unpack_pack .positive hm h (h.exponent_le hm hy)
    change Holds (UnpackedFloat.unpack Format.binary64 (UnpackedFloat.pack Format.binary64 _)) _
    rw [hsurvives]
    exact .finite hm h

theorem holds_iff {f : Float} {y : ℚ} :
    Holds f.toModel.unpack y ↔ (ofFloat f).value? = some y ∧ 0 ≤ y := by
  have hwell := wellFormed_ofFloat f
  rw [ofFloat_eq] at hwell ⊢
  generalize f.toModel.unpack = u at *
  constructor
  · intro h
    cases h with
    | zero s => cases s <;> simp [ofUnpacked, value?]
    | finite hm h => exact ⟨rfl, mul_nonneg (Nat.cast_nonneg _) (two_zpow_pos _).le⟩
  · rintro ⟨hvalue, hy⟩
    rcases u with s | _ | s | ⟨⟨⟩, m, e, hm⟩
    case zero =>
      obtain rfl : 0 = y := by cases s <;> simpa [ofUnpacked, value?] using hvalue
      exact .zero s
    case finite.positive =>
      cases hvalue
      exact .finite hm hwell
    case finite.negative =>
      cases hvalue
      have hpos : (0 : ℚ) < m * 2 ^ e := mul_zpow_pos hm e
      exact absurd hy (neg_lt_zero.mpr hpos).not_ge
    case infinity => cases hvalue
    case notANumber => cases hvalue

/-! ## Floats -/

/-- **A product of floats is the exact product, rounded**, unless it is too large to be a float. -/
theorem value_mul {f g : Float} {y z : ℚ} (hf : (ofFloat f).value? = some y)
    (hg : (ofFloat g).value? = some z) (hy : 0 ≤ y) (hz : 0 ≤ z)
    (hsize : nearest (y * z) < 2 ^ (1024 : ℤ)) :
    (ofFloat (f * g)).value? = some (nearest (y * z)) :=
  (holds_iff.mp (holds_pack (holds_mul (holds_iff.mpr ⟨hf, hy⟩) (holds_iff.mpr ⟨hg, hz⟩)) hsize)).1

theorem nearest_le (hx : 0 ≤ x) (h : x ≤ 2 ^ 64) : nearest x ≤ 2 ^ 64 := by
  have hrepresentable : Representable (2 ^ 64) := ⟨2 ^ 52, 12, by norm_num, by norm_num, by norm_num⟩
  calc nearest x ≤ nearest (2 ^ 64) := nearest_mono hx h
    _ = 2 ^ 64 := nearest_of_representable (by positivity) hrepresentable

theorem nearest_lt (hx : 0 ≤ x) (h : x ≤ 2 ^ 64) : nearest x < 2 ^ (1024 : ℤ) := by
  calc nearest x ≤ 2 ^ (64 : ℤ) := nearest_le hx h
    _ < 2 ^ (1024 : ℤ) := zpow_lt_zpow_right₀ one_lt_two (by norm_num)

theorem nearest_toNat_lt (n : UInt64) : nearest n.toNat < 2 ^ (1024 : ℤ) := by
  have hsize : (n.toNat : ℚ) ≤ 2 ^ 64 := by exact_mod_cast n.toNat_lt.le
  exact nearest_lt n.toNat.cast_nonneg hsize

theorem holds_toFloat (n : UInt64) : Holds n.toFloat.toModel.unpack (nearest n.toNat) :=
  holds_pack (holds_ofNat n.toNat) (nearest_toNat_lt n)

/-- **A count as a float is the exact count, rounded.** -/
theorem value_toFloat (n : UInt64) : (ofFloat n.toFloat).value? = some (nearest n.toNat) :=
  (holds_iff.mp (holds_toFloat n)).1

/-- The float nearest to one millionth is a little below it. -/
theorem nearest_millionth : nearest (1 / 10 ^ 6) = 4722366482869645 * 2 ^ (-72 : ℤ) := by
  have hlog : Int.log 2 (1 / 10 ^ 6 : ℚ) = -20 := log_eq (by norm_num) (by norm_num)
  have hunit : unitExponent (1 / 10 ^ 6) = -72 := by rw [unitExponent, hlog]; rfl
  have hmantissa : halfEven (1 / 10 ^ 6 / 2 ^ (-72 : ℤ)) = 4722366482869645 :=
    halfEven_of_lt (by norm_num) (by norm_num)
  rw [nearest, hunit, hmantissa]
  norm_num

theorem value_millionth : (ofFloat 1e-6).value? = some (nearest (1 / 10 ^ 6)) := by
  rw [ofFloat_eq, nearest_millionth]
  rfl

end Binary64

end RunSweep
