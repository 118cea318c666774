import Mathlib.Algebra.Order.Field.Power
import RunSweep.Decimal.Reading
import RunSweep.Decimal.Shortest
import RunSweep.Proofs.Decimal.Value

/-!
# Shortest decimals that read back

The digits that are written for a float lie in the interval of numbers that are rounded to it. `Around` is
that interval as rational numbers: half a unit of the mantissa to either side, or a quarter below where the
units are half as large, and the two ends belong to it if the mantissa is even. What lies in it is rounded to the
float (`Around.rounded`).

The search goes from coarse grids to fine ones and stops at the first that meets the interval, so it does not
go further down than a grid on which the float lies itself (`coarsest_spec`). A whole number lies on the grid
of the units. So it is written with digits only, without a point, and they read back as the number.
-/

namespace RunSweep

namespace Binary64

variable {m : ℕ} {e : ℤ} {edge : Bool} {x z : ℚ}

/-! ## What is rounded to a number -/

/-- How far below a mantissa the numbers begin that are rounded to it. -/
def lowerHalf (edge : Bool) : ℚ :=
  if edge then 1 / 4 else 1 / 2

/-- **The numbers around `m * 2 ^ e`**: up to half a unit away, and less than that if `m` is odd. -/
structure Around (m : ℕ) (e : ℤ) (edge : Bool) (x : ℚ) : Prop where
  low : (m - lowerHalf edge) * 2 ^ e ≤ x
  high : x ≤ (m + 1 / 2) * 2 ^ e
  odd : ¬ Even m → (m - lowerHalf edge) * 2 ^ e < x ∧ x < (m + 1 / 2) * 2 ^ e

/-- The mantissa is the least full one, and the numbers below it have a smaller exponent. -/
def LowEdge (m : ℕ) (e : ℤ) : Prop :=
  m = 2 ^ 52 ∧ e ≠ -1074

namespace Canonical

/-- The next number is one unit above. -/
theorem gap_above (h : Canonical m e) (hz : Representable z) (hlt : m * 2 ^ e < z) :
    (m + 1) * 2 ^ e ≤ z := by
  obtain ⟨k, u, hk, hu, rfl⟩ := hz
  rcases le_or_gt e u with hle | hgt
  · rw [mul_zpow_eq hle] at hlt ⊢
    have hmore : m < k * 2 ^ (u - e).toNat := by
      exact_mod_cast lt_of_mul_lt_mul_right hlt (two_zpow_pos e).le
    exact mul_le_mul_of_nonneg_right (by exact_mod_cast hmore) (two_zpow_pos e).le
  -- a number with a smaller exponent is below all that have this one
  · have hfull : 2 ^ 52 ≤ m := h.full.resolve_right (by omega)
    have hm : (2 : ℚ) ^ 52 * 2 ^ e ≤ m * 2 ^ e :=
      mul_le_mul_of_nonneg_right (by exact_mod_cast hfull) (two_zpow_pos e).le
    exact absurd (hlt.trans (lt_least_of_exponent_lt hk hgt)) hm.not_gt

/-- The number before it is one unit below, -/
theorem gap_below (h : Canonical m e) (hedge : ¬ LowEdge m e) (hz : Representable z)
    (hlt : z < m * 2 ^ e) : z ≤ (m - 1) * 2 ^ e := by
  rcases Nat.eq_zero_or_pos m with rfl | hm
  · obtain ⟨k, u, -, -, rfl⟩ := hz
    have hnonneg : (0 : ℚ) ≤ k * 2 ^ u := by positivity
    exact absurd hlt (by simpa using hnonneg)
  have hbefore : Canonical (m - 1) e := by
    refine ⟨by have := h.mantissa_lt; omega, h.exponent_ge, ?_⟩
    have hfull := h.full
    unfold LowEdge at hedge
    omega
  by_contra hgt
  rw [not_le, ← Nat.cast_pred hm] at hgt
  have habove := hbefore.gap_above hz hgt
  rw [Nat.cast_pred hm, sub_add_cancel] at habove
  exact habove.not_gt hlt

/-- or half a unit, where the units below are half as large. -/
theorem gap_below_edge (h : Canonical m e) (hz : Representable z) (hlt : z < m * 2 ^ e) :
    z ≤ (m - 1 / 2) * 2 ^ e := by
  have hp := two_zpow_pos e
  by_cases hedge : LowEdge m e
  · obtain ⟨rfl, he⟩ := hedge
    have hge := h.exponent_ge
    have hbefore : Canonical (2 ^ 53 - 1) (e - 1) := ⟨by norm_num, by omega, .inl (by norm_num)⟩
    have hhalf : (2 : ℚ) ^ e = 2 * 2 ^ (e - 1) := by
      rw [zpow_sub_one₀ two_ne_zero]
      ring
    by_contra hgt
    have habove := hbefore.gap_above hz (lt_of_eq_of_lt (by rw [hhalf]; push_cast; ring) (not_le.mp hgt))
    refine habove.not_gt (hlt.trans_eq ?_)
    rw [hhalf]
    push_cast
    ring
  · linarith [h.gap_below hedge hz hlt]

end Canonical

theorem lowerHalf_pos (edge : Bool) : 0 < lowerHalf edge := by
  cases edge <;> norm_num [lowerHalf]

/-- A number lies around itself. -/
theorem around_self (m : ℕ) (e : ℤ) (edge : Bool) : Around m e edge (m * 2 ^ e) := by
  have hlow : (m - lowerHalf edge) * 2 ^ e < m * 2 ^ e :=
    mul_lt_mul_of_pos_right (sub_lt_self _ (lowerHalf_pos edge)) (two_zpow_pos e)
  have hhigh : (m : ℚ) * 2 ^ e < (m + 1 / 2) * 2 ^ e :=
    mul_lt_mul_of_pos_right (by norm_num) (two_zpow_pos e)
  exact ⟨hlow.le, hhigh.le, fun _ => ⟨hlow, hhigh⟩⟩

namespace Around

/-- From what lies around a number, those below it are as far away, and farther if the mantissa is odd. -/
theorem closer_than_below (h : Around m e edge x) (hcanonical : Canonical m e)
    (hedge : LowEdge m e → edge = true) (hz : Representable z) (hlt : z < m * 2 ^ e) :
    |x - m * 2 ^ e| ≤ |x - z| ∧ (¬ Even m → |x - m * 2 ^ e| < |x - z|) := by
  have hlow := h.low
  have hhalf : 0 < lowerHalf edge * 2 ^ e := mul_pos (lowerHalf_pos edge) (two_zpow_pos e)
  -- below the least full mantissa the next number is half a unit away, elsewhere a whole one
  have hgap : z ≤ (m - 2 * lowerHalf edge) * 2 ^ e := by
    cases edge with
    | true =>
        have hnext := hcanonical.gap_below_edge hz hlt
        norm_num [lowerHalf] at hnext ⊢
        exact hnext
    | false =>
        have hnext := hcanonical.gap_below (fun h => absurd (hedge h) (by decide)) hz hlt
        norm_num [lowerHalf] at hnext ⊢
        exact hnext
  have hbeyond : z < x := by linarith
  rw [abs_of_pos (sub_pos.mpr hbeyond), abs_le, abs_lt]
  refine ⟨⟨by linarith, by linarith⟩, fun hodd => ⟨?_, by linarith⟩⟩
  linarith [(h.odd hodd).1]

/-- And so are those above it. -/
theorem closer_than_above (h : Around m e edge x) (hcanonical : Canonical m e) (hz : Representable z)
    (hgt : m * 2 ^ e < z) :
    |x - m * 2 ^ e| ≤ |x - z| ∧ (¬ Even m → |x - m * 2 ^ e| < |x - z|) := by
  have hhigh := h.high
  have hgap := hcanonical.gap_above hz hgt
  have hbeyond : x < z := by linarith
  rw [abs_of_neg (sub_neg.mpr hbeyond), abs_le, abs_lt]
  refine ⟨⟨by linarith, by linarith⟩, fun hodd => ⟨by linarith, ?_⟩⟩
  linarith [(h.odd hodd).2]

/-- **What lies around a number is rounded to it.** -/
theorem rounded (h : Around m e edge x) (hcanonical : Canonical m e)
    (hedge : LowEdge m e → edge = true) : Rounded x (m * 2 ^ e) := by
  have hother : ∀ z, Representable z → z ≠ m * 2 ^ e →
      |x - m * 2 ^ e| ≤ |x - z| ∧ (¬ Even m → |x - m * 2 ^ e| < |x - z|) := by
    intro z hz hne
    rcases lt_or_gt_of_ne hne with hlt | hgt
    · exact h.closer_than_below hcanonical hedge hz hlt
    · exact h.closer_than_above hcanonical hz hgt
  refine ⟨hcanonical.representable, fun z hz => ?_, fun z hz hne htie => ?_⟩
  · by_cases hne : z = m * 2 ^ e
    · rw [hne]
    · exact (hother z hz hne).1
  · refine ⟨m, e, hcanonical, ?_, rfl⟩
    by_contra hodd
    exact ((hother z hz hne).2 hodd).ne' htie

end Around

end Binary64

namespace Decimal

open Binary64

/-! ## The interval -/

theorem pow_toNat {b : ℚ} (hb : b ≠ 0) (k : ℤ) : b ^ k.toNat = b ^ k * b ^ (-k).toNat := by
  rw [← zpow_natCast, ← zpow_natCast, ← zpow_add₀ hb]
  congr 1
  omega

namespace Interval

variable {i : Interval} {m n : ℕ} {e power : ℤ} {edge : Bool}

theorem holds_iff : i.holds n = true ↔
    i.low ≤ n * i.unit ∧ n * i.unit ≤ i.high ∧
      (i.closed = false → i.low < n * i.unit ∧ n * i.unit < i.high) := by
  unfold holds
  split_ifs with hclosed
  · simp [hclosed]
  · simp only [Bool.and_eq_true, decide_eq_true_eq]
    constructor
    · exact fun h => ⟨h.1.le, h.2.le, fun _ => h⟩
    · exact fun h => h.2.2 (Bool.not_eq_true _ ▸ hclosed)

/-- What the numbers of a scaled interval are multiples of, so that they are natural ones. -/
def denominator (e power : ℤ) : ℚ :=
  2 ^ (2 - e).toNat * 10 ^ (-power).toNat

theorem denominator_pos (e power : ℤ) : 0 < denominator e power := by
  unfold denominator
  positivity

/-- The ends and the value of an interval are counted in quarters of the float's unit. -/
theorem cast_quarters {a : ℕ} {q : ℚ} (ha : (a : ℚ) = 4 * q) :
    ((a * Nat.pow 2 (e - 2).toNat * Nat.pow 10 (-power).toNat : ℕ) : ℚ) =
      q * 2 ^ e * denominator e power := by
  have hquarter : (4 : ℚ) * 2 ^ (e - 2) = 2 ^ e := by
    rw [zpow_sub₀ two_ne_zero]
    norm_num
    ring
  have htwo : (2 : ℚ) ^ (e - 2).toNat = 2 ^ (e - 2) * 2 ^ (2 - e).toNat := by
    rw [pow_toNat two_ne_zero, neg_sub]
  simp only [Nat.pow_eq]
  push_cast
  rw [denominator, ha, htwo, ← hquarter]
  ring

theorem cast_low (hm : 0 < m) (e power : ℤ) (edge : Bool) :
    (((around m e edge).inTens power).low : ℚ) =
      (m - lowerHalf edge) * 2 ^ e * denominator e power := by
  apply cast_quarters
  cases edge <;> rw [Nat.cast_sub (by split_ifs <;> omega)] <;> norm_num [lowerHalf] <;> ring

theorem cast_value (m : ℕ) (e power : ℤ) (edge : Bool) :
    (((around m e edge).inTens power).value : ℚ) = m * 2 ^ e * denominator e power :=
  cast_quarters (by push_cast; rfl)

theorem cast_high (m : ℕ) (e power : ℤ) (edge : Bool) :
    (((around m e edge).inTens power).high : ℚ) = (m + 1 / 2) * 2 ^ e * denominator e power := by
  apply cast_quarters
  push_cast
  ring

theorem cast_unit (m : ℕ) (e power : ℤ) (edge : Bool) :
    (((around m e edge).inTens power).unit : ℚ) = 10 ^ power * denominator e power := by
  have hten : (10 : ℚ) ^ power.toNat = 10 ^ power * 10 ^ (-power).toNat := pow_toNat (by norm_num) _
  simp only [around, inTens, Nat.pow_eq]
  push_cast
  rw [denominator, hten]
  ring

/-- Natural numbers that are multiples of one positive number are compared as what they are multiples by. -/
theorem compare_multiples {a b : ℕ} {p q factor : ℚ} (hfactor : 0 < factor) (ha : (a : ℚ) = p * factor)
    (hb : (b : ℚ) = q * factor) : (a ≤ b ↔ p ≤ q) ∧ (a < b ↔ p < q) := by
  rw [← Nat.cast_le (α := ℚ), ← Nat.cast_lt (α := ℚ), ha, hb]
  exact ⟨mul_le_mul_iff_left₀ hfactor, mul_lt_mul_iff_left₀ hfactor⟩

/-- **A number of tens lies in the interval if it lies around the float.** -/
theorem holds_around (hm : 0 < m) :
    ((around m e edge).inTens power).holds n = true ↔ Around m e edge (n * 10 ^ power) := by
  have hunits : ((n * ((around m e edge).inTens power).unit : ℕ) : ℚ) =
      n * 10 ^ power * denominator e power := by
    rw [Nat.cast_mul, cast_unit, mul_assoc]
  have hlows := compare_multiples (denominator_pos e power) (cast_low hm e power edge) hunits
  have hhighs := compare_multiples (denominator_pos e power) hunits (cast_high m e power edge)
  have hodd : ((around m e edge).inTens power).closed = false ↔ ¬ Even m := by
    rw [Nat.even_iff]
    exact beq_eq_false_iff_ne
  rw [holds_iff, hlows.1, hlows.2, hhighs.1, hhighs.2, hodd]
  constructor
  · rintro ⟨hlow, hhigh, hodd⟩
    exact ⟨hlow, hhigh, hodd⟩
  · exact fun h => ⟨h.low, h.high, h.odd⟩

/-! ## The search -/

theorem holds_of_nearest? (h : i.nearest? = some n) : i.holds n = true := by
  unfold nearest? at h
  dsimp only at h
  generalize (if i.value % i.unit = 0 then i.value / i.unit else i.value / i.unit + 1) = above at h
  generalize i.value / i.unit = below at h
  split at h
  next hbelow habove =>
    cases h
    split_ifs
    · exact hbelow
    · exact habove
  next hbelow _ => exact Option.some.inj h ▸ hbelow
  next _ habove => exact Option.some.inj h ▸ habove
  next => cases h

theorem nearest?_ne_none (h : i.holds (i.value / i.unit) = true) : i.nearest? ≠ none := by
  unfold nearest?
  dsimp only
  rw [h]
  split <;> simp_all

/-- **The search finds a grid that meets the interval**, and a number on it, and it does not go further than
to a grid that does. -/
theorem coarsest_spec {lowest : ℤ} {steps : ℕ} (hmeets : (i.inTens lowest).nearest? ≠ none)
    (hlowest : lowest ≤ power) (hsteps : power - lowest < steps) :
    lowest ≤ (i.coarsest power steps).power ∧
      (i.inTens (i.coarsest power steps).power).holds (i.coarsest power steps).digits = true := by
  induction steps generalizing power with
  | zero => omega
  | succ steps ih =>
      rw [coarsest]
      cases hnearest : (i.inTens power).nearest? with
      | some digits => exact ⟨hlowest, holds_of_nearest? hnearest⟩
      | none =>
          have hne : lowest ≠ power := by
            rintro rfl
            exact hmeets hnearest
          exact ih (by omega) (by omega)

end Interval

/-! ## Whole numbers -/

section Whole

variable {m : ℕ} {e : ℤ} {edge : Bool}

/-- A whole number has at least as many bits as its unit lacks. -/
theorem neg_le_log2 (hm : 0 < m) (hwhole : m % 2 ^ (-e).toNat = 0) : -e ≤ Nat.log2 m := by
  have hle : 2 ^ (-e).toNat ≤ m := Nat.le_of_dvd hm (Nat.dvd_of_mod_eq_zero hwhole)
  have hlog : (-e).toNat ≤ Nat.log2 m := (Nat.le_log2 hm.ne').mpr hle
  omega

/-- The units are a grid on which a whole number lies itself. -/
theorem units_meet (hm : 0 < m) (hwhole : m % 2 ^ (-e).toNat = 0) :
    ((Interval.around m e edge).inTens 0).nearest? ≠ none := by
  obtain ⟨k, hk⟩ := (exists_int_iff m e).mpr hwhole
  have hnonneg : (0 : ℚ) ≤ k := hk ▸ by positivity
  obtain ⟨n, rfl⟩ := Int.eq_ofNat_of_zero_le (Int.cast_nonneg_iff.mp hnonneg)
  have hunit : 0 < ((Interval.around m e edge).inTens 0).unit := by
    rw [← Nat.cast_pos (α := ℚ), Interval.cast_unit, zpow_zero, one_mul]
    exact Interval.denominator_pos e 0
  have hvalue : ((Interval.around m e edge).inTens 0).value =
      n * ((Interval.around m e edge).inTens 0).unit := by
    rw [← Nat.cast_inj (R := ℚ), Nat.cast_mul, Interval.cast_value, Interval.cast_unit, hk, zpow_zero,
      one_mul, Int.cast_natCast]
  have hquotient : ((Interval.around m e edge).inTens 0).value /
      ((Interval.around m e edge).inTens 0).unit = n := by
    rw [hvalue, Nat.mul_div_cancel _ hunit]
  apply Interval.nearest?_ne_none
  rw [hquotient, Interval.holds_around hm, zpow_zero, mul_one, ← Int.cast_natCast n, ← hk]
  exact around_self m e edge

/-- **A whole number is written without a point**, and what is written lies around it. -/
theorem shortest_spec (hm : 0 < m) (hfits : m < 2 ^ 53) (he : e ≤ 971)
    (hwhole : m % 2 ^ (-e).toNat = 0) :
    0 ≤ (shortest m e edge).power ∧
      Around m e edge ((shortest m e edge).digits * 10 ^ (shortest m e edge).power) := by
  have hbits := neg_le_log2 hm hwhole
  have hlog : Nat.log2 m < 53 := (Nat.log2_lt hm.ne').mpr hfits
  rw [← Interval.holds_around hm]
  refine Interval.coarsest_spec (units_meet hm hwhole) ?_ ?_ <;> unfold tensAbove <;> omega

end Whole

/-! ## Digits -/

/-- Digits only, and at least one. -/
structure IsDigits (cs : List Char) : Prop where
  ne_nil : cs ≠ []
  all : ∀ c ∈ cs, isDigit c = true

variable {d : Scaled}

theorem positional_eq (h : 0 ≤ d.power) :
    d.positional = digitsOf d.digits ++ List.replicate d.power.toNat '0' := by
  unfold Scaled.positional
  obtain ⟨zeros, hzeros⟩ := Int.eq_ofNat_of_zero_le h
  rw [hzeros]
  rfl

theorem isDigits_positional (h : 0 ≤ d.power) : IsDigits d.positional := by
  rw [positional_eq h]
  constructor
  case ne_nil =>
    rw [ne_eq, List.append_eq_nil_iff]
    exact fun hnil => Nat.toDigits_ne_nil hnil.1
  case all =>
    intro c hc
    rcases List.mem_append.mp hc with hdigit | hzero
    · exact Nat.isDigit_of_mem_toDigits (by decide) (by decide) hdigit
    · rw [List.eq_of_mem_replicate hzero]
      decide

/-- What is written positionally without a point is read as the number. -/
theorem ofDigits_positional (h : 0 ≤ d.power) :
    (ofDigits d.positional : ℚ) = d.digits * 10 ^ d.power := by
  have hread : ofDigits d.positional = 10 ^ d.power.toNat * d.digits := by
    rw [positional_eq h]
    show Nat.ofDigitChars 10 (Nat.toDigits 10 d.digits ++ _) 0 = _
    rw [Nat.ofDigitChars_append, Nat.ofDigitChars_ten_toDigits, Nat.ofDigitChars_replicate_zero]
  rw [hread, Nat.cast_mul, Nat.cast_pow, Nat.cast_ofNat, ← zpow_natCast, Int.toNat_of_nonneg h, mul_comm]

end Decimal

namespace Binary64

open Decimal

variable {bits m : ℕ} {e : ℤ} {edge negative : Bool}

/-- What the bits of a float say of a finite value. -/
theorem ofBits_finite (h : ofBits bits = finite negative m e edge) :
    Canonical m e ∧ e ≤ 971 ∧ (LowEdge m e → edge = true) := by
  have hwell := wellFormed_ofBits bits
  rw [h] at hwell
  refine ⟨hwell, ?_⟩
  simp only [ofBits, Nat.pow_eq] at h
  split_ifs at h with hlast _ hleast <;> cases h
  · exact ⟨by norm_num, fun hedge => absurd rfl hedge.2⟩
  · refine ⟨by omega, fun hedge => ?_⟩
    have hfraction := hedge.1
    have hsecond := hedge.2
    rw [Bool.and_eq_true, beq_iff_eq, decide_eq_true_eq]
    omega

/-- **A whole number that is not negative is written as digits, and they read back as it.** -/
theorem magnitude_spec {x : Float} (h : ofFloat x = finite negative m e edge)
    (hwhole : m % 2 ^ (-e).toNat = 0) :
    IsDigits (magnitude m e edge) ∧ nearest (ofDigits (magnitude m e edge)) = m * 2 ^ e := by
  obtain ⟨hcanonical, he, hedge⟩ := ofBits_finite h
  unfold magnitude
  split_ifs with hzero
  · rw [hzero, Nat.cast_zero, zero_mul]
    refine ⟨⟨by decide, List.forall_mem_singleton.mpr rfl⟩, ?_⟩
    have hread : ofDigits ['0'] = 0 := by decide
    rw [hread, Nat.cast_zero, nearest_zero]
  · obtain ⟨hpower, haround⟩ : 0 ≤ (shortest m e edge).power ∧ Around m e edge _ :=
      shortest_spec (Nat.pos_of_ne_zero hzero) hcanonical.mantissa_lt he hwhole
    refine ⟨isDigits_positional hpower, ?_⟩
    rw [ofDigits_positional hpower, eq_comm, ← rounded_iff (by positivity)]
    exact haround.rounded hcanonical hedge

end Binary64

end RunSweep
