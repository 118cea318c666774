import Mathlib.Data.Int.Log
import Mathlib.Data.Rat.Floor
import Mathlib.Tactic.FieldSimp
import Mathlib.Tactic.Linarith
import Mathlib.Tactic.Positivity

/-!
# Rounding to the nearest binary64 number

The binary64 numbers that are not below zero are the products `m * 2 ^ e` with less than 54 bits in `m`
and an exponent of at least `-1074`. (There is a largest one as well, which nothing here comes near.)
`Rounded x y` says what it means that `x` is rounded to `y`: no other number is nearer, and if another is
just as near, the mantissa of `y` is even. `nearest` is the function that rounds. It looks at the numbers
around `x` as multiples of one unit, and rounds to a multiple.

There is only one number to which another is rounded. Rounding keeps the order, and leaves alone what is a
binary64 number.
-/

namespace RunSweep

/-! ## Rounding to natural numbers -/

/-- The nearest natural number, and of two that are as near the even one. -/
def halfEven (x : ℚ) : ℕ :=
  if x < ⌊x⌋₊ + 1 / 2 ∨ x = ⌊x⌋₊ + 1 / 2 ∧ Even ⌊x⌋₊ then ⌊x⌋₊ else ⌊x⌋₊ + 1

section HalfEven

variable {x : ℚ}

section Between

variable {n : ℕ}

theorem floor_eq (hlo : (n : ℚ) ≤ x) (hhi : x < n + 1) : ⌊x⌋₊ = n :=
  (Nat.floor_eq_iff (n.cast_nonneg.trans hlo)).mpr ⟨hlo, hhi⟩

theorem halfEven_of_lt (hlo : (n : ℚ) ≤ x) (h : x < n + 1 / 2) : halfEven x = n := by
  rw [halfEven, floor_eq hlo (by linarith), if_pos (.inl h)]

theorem halfEven_of_gt (h : (n : ℚ) + 1 / 2 < x) (hhi : x < n + 1) : halfEven x = n + 1 := by
  rw [halfEven, floor_eq (by linarith) hhi, if_neg]
  rintro (hlt | ⟨heq, -⟩) <;> linarith

theorem halfEven_of_eq (h : x = n + 1 / 2) : halfEven x = n + n % 2 := by
  rw [halfEven, floor_eq (by linarith) (by linarith)]
  rcases n.even_or_odd with heven | hodd
  · rw [if_pos (.inr ⟨h, heven⟩), Nat.even_iff.mp heven, add_zero]
  · rw [if_neg, Nat.odd_iff.mp hodd]
    rintro (hlt | ⟨-, heven⟩)
    · linarith
    · exact Nat.not_even_iff_odd.mpr hodd heven

end Between

/-- What is rounded goes less than a half, or half a unit to an even number. -/
theorem halfEven_cases (hx : 0 ≤ x) :
    |x - halfEven x| < 1 / 2 ∨ |x - halfEven x| = 1 / 2 ∧ Even (halfEven x) := by
  have hlo : (⌊x⌋₊ : ℚ) ≤ x := Nat.floor_le hx
  have hhi : x < ⌊x⌋₊ + 1 := Nat.lt_floor_add_one x
  unfold halfEven
  split_ifs with h
  · rw [abs_of_nonneg (by linarith)]
    rcases h with hlt | ⟨heq, heven⟩
    · exact .inl (by linarith)
    · exact .inr ⟨by linarith, heven⟩
  · push Not at h
    obtain ⟨hge, hodd⟩ := h
    rw [Nat.cast_add, Nat.cast_one, abs_of_neg (by linarith)]
    rcases hge.lt_or_eq with hgt | heq
    · exact .inl (by linarith)
    · exact .inr ⟨by linarith, (Nat.not_even_iff_odd.mp (hodd heq.symm)).add_one⟩

/-- Two natural numbers lie at least one apart. -/
theorem one_le_abs_sub {k n : ℕ} (hne : k ≠ n) : (1 : ℚ) ≤ |x - n| + |x - k| := by
  have hint : (1 : ℤ) ≤ |(k : ℤ) - n| := Int.one_le_abs (sub_ne_zero.mpr (by exact_mod_cast hne))
  calc (1 : ℚ) ≤ |(k : ℚ) - n| := by exact_mod_cast hint
    _ = |x - n - (x - k)| := by rw [sub_sub_sub_cancel_left]
    _ ≤ |x - n| + |x - k| := abs_sub _ _

theorem abs_sub_halfEven_le (hx : 0 ≤ x) (k : ℕ) : |x - halfEven x| ≤ |x - k| := by
  by_cases hne : k = halfEven x
  · rw [hne]
  have hapart := one_le_abs_sub (x := x) hne
  rcases halfEven_cases hx with hlt | ⟨heq, -⟩ <;> linarith

theorem even_halfEven (hx : 0 ≤ x) {k : ℕ} (hne : k ≠ halfEven x)
    (htie : |x - k| = |x - halfEven x|) : Even (halfEven x) := by
  have hapart := one_le_abs_sub (x := x) hne
  rcases halfEven_cases hx with hlt | ⟨-, heven⟩
  · linarith
  · exact heven

/-- What does not exceed a natural number is not rounded to a larger one. -/
theorem halfEven_le (hx : 0 ≤ x) {n : ℕ} (h : x ≤ n) : halfEven x ≤ n := by
  have hnear := abs_sub_halfEven_le hx n
  rw [abs_of_nonpos (sub_nonpos.mpr h)] at hnear
  have hcast : (halfEven x : ℚ) ≤ n := by linarith [neg_abs_le (x - halfEven x)]
  exact_mod_cast hcast

theorem le_halfEven (hx : 0 ≤ x) {n : ℕ} (h : (n : ℚ) ≤ x) : n ≤ halfEven x := by
  have hnear := abs_sub_halfEven_le hx n
  rw [abs_of_nonneg (sub_nonneg.mpr h)] at hnear
  have hcast : (n : ℚ) ≤ halfEven x := by linarith [le_abs_self (x - halfEven x)]
  exact_mod_cast hcast

end HalfEven

namespace Binary64

/-! ## What it means to round -/

/-- The numbers that are not below zero, were there no largest one. -/
def Representable (x : ℚ) : Prop :=
  ∃ (m : ℕ) (e : ℤ), m < 2 ^ 53 ∧ -1074 ≤ e ∧ x = m * 2 ^ e

/-- **The way to write a number**: all 53 bits of the mantissa are used, unless the exponent is the least. -/
structure Canonical (m : ℕ) (e : ℤ) : Prop where
  mantissa_lt : m < 2 ^ 53
  exponent_ge : -1074 ≤ e
  full : 2 ^ 52 ≤ m ∨ e = -1074

theorem two_zpow_pos (e : ℤ) : (0 : ℚ) < 2 ^ e :=
  zpow_pos two_pos e

theorem mul_zpow_pos {m : ℕ} (hm : 0 < m) (e : ℤ) : (0 : ℚ) < m * 2 ^ e :=
  mul_pos (by exact_mod_cast hm) (two_zpow_pos e)

/-- A number in smaller units. -/
theorem mul_zpow_eq {u e : ℤ} (h : u ≤ e) (m : ℕ) :
    (m : ℚ) * 2 ^ e = (m * 2 ^ (e - u).toNat : ℕ) * 2 ^ u := by
  have hsplit : e = (e - u).toNat + u := by omega
  conv_lhs => rw [hsplit, zpow_add₀ two_ne_zero, zpow_natCast]
  push_cast
  ring

/-- A mantissa that fits makes less than the least full one with a larger exponent. -/
theorem lt_least_of_exponent_lt {m : ℕ} {e u : ℤ} (hm : m < 2 ^ 53) (hlt : e < u) :
    (m : ℚ) * 2 ^ e < 2 ^ 52 * 2 ^ u := by
  have hm' : (m : ℚ) < 2 ^ 53 := by exact_mod_cast hm
  calc (m : ℚ) * 2 ^ e < 2 ^ 53 * 2 ^ e := mul_lt_mul_of_pos_right hm' (two_zpow_pos e)
    _ = 2 ^ 52 * 2 ^ (e + 1) := by rw [zpow_add₀ two_ne_zero]; ring
    _ ≤ 2 ^ 52 * 2 ^ u :=
        mul_le_mul_of_nonneg_left (zpow_le_zpow_right₀ one_le_two (by omega)) (by positivity)

namespace Canonical

variable {m m' : ℕ} {e e' : ℤ}

theorem representable (h : Canonical m e) : Representable (m * 2 ^ e) :=
  ⟨m, e, h.mantissa_lt, h.exponent_ge, rfl⟩

/-- A larger exponent makes a larger number, whatever the mantissas. -/
theorem lt_of_exponent_lt (h : Canonical m e) (h' : Canonical m' e') (hlt : e < e') :
    (m : ℚ) * 2 ^ e < m' * 2 ^ e' := by
  have hfull : 2 ^ 52 ≤ m' := h'.full.resolve_right (by have := h.exponent_ge; omega)
  have hm' : (2 : ℚ) ^ 52 ≤ m' := by exact_mod_cast hfull
  calc (m : ℚ) * 2 ^ e < 2 ^ 52 * 2 ^ e' := lt_least_of_exponent_lt h.mantissa_lt hlt
    _ ≤ m' * 2 ^ e' := mul_le_mul_of_nonneg_right hm' (two_zpow_pos e').le

/-- Two numbers with even mantissas are not neighbours. -/
theorem exists_between (h : Canonical m e) (h' : Canonical m' e') (hm : Even m) (hm' : Even m')
    (hlt : (m : ℚ) * 2 ^ e < m' * 2 ^ e') :
    ∃ z, Representable z ∧ m * 2 ^ e < z ∧ z < m' * 2 ^ e' := by
  have hp := two_zpow_pos e
  have hfits : m + 1 < 2 ^ 53 := by
    obtain ⟨k, rfl⟩ := hm
    have := h.mantissa_lt
    omega
  have hexponent : e ≤ e' := by
    by_contra hgt
    exact lt_asymm hlt (h'.lt_of_exponent_lt h (not_le.mp hgt))
  rw [mul_zpow_eq hexponent] at hlt ⊢
  have hmore : m < m' * 2 ^ (e' - e).toNat := by exact_mod_cast lt_of_mul_lt_mul_right hlt hp.le
  -- the next mantissa is odd, so it is not the other number's
  have heven : Even (m' * 2 ^ (e' - e).toNat) := hm'.mul_right _
  have hne : m + 1 ≠ m' * 2 ^ (e' - e).toNat := by
    intro heq
    rw [← heq] at heven
    exact Nat.not_even_iff_odd.mpr hm.add_one heven
  have hnext : m + 1 < m' * 2 ^ (e' - e).toNat := lt_of_le_of_ne hmore hne
  refine ⟨(m + 1 : ℕ) * 2 ^ e, ⟨m + 1, e, hfits, h.exponent_ge, rfl⟩, ?_, ?_⟩
  · exact mul_lt_mul_of_pos_right (by exact_mod_cast m.lt_succ_self) hp
  · exact mul_lt_mul_of_pos_right (by exact_mod_cast hnext) hp

end Canonical

/-- **`x` is rounded to `y`**: to the nearest number, and at a tie to one whose mantissa is even. -/
structure Rounded (x y : ℚ) : Prop where
  representable : Representable y
  closest : ∀ z, Representable z → |x - y| ≤ |x - z|
  even : ∀ z, Representable z → z ≠ y → |x - z| = |x - y| →
    ∃ m e, Canonical m e ∧ Even m ∧ y = m * 2 ^ e

variable {x y x' y' z : ℚ}

/-- **Rounding keeps the order.** -/
theorem Rounded.le_of_lt (h : Rounded x y) (h' : Rounded x' y') (hlt : x < x') : y ≤ y' := by
  by_contra hy
  rw [not_le] at hy
  -- both lie on the wrong side of the middle between `y'` and `y`
  have hx := h.closest y' h'.representable
  have hx' := h'.closest y h.representable
  rcases abs_cases (x - y) with ⟨h₁, _⟩ | ⟨h₁, _⟩ <;>
    rcases abs_cases (x - y') with ⟨h₂, _⟩ | ⟨h₂, _⟩ <;>
      rcases abs_cases (x' - y) with ⟨h₃, _⟩ | ⟨h₃, _⟩ <;>
        rcases abs_cases (x' - y') with ⟨h₄, _⟩ | ⟨h₄, _⟩ <;> linarith

/-- **What is a binary64 number is left alone.** -/
theorem Rounded.eq_of_representable (h : Rounded x y) (hx : Representable x) : y = x := by
  have hclosest := h.closest x hx
  rw [sub_self, abs_zero] at hclosest
  linarith [abs_eq_zero.mp (le_antisymm hclosest (abs_nonneg _))]

/-- What lies between two numbers that are as far from `x` is nearer to it. -/
theorem abs_sub_lt_of_between (htie : |x - y'| = |x - y|) (hlo : y < z) (hhi : z < y') :
    |x - z| < |x - y| := by
  rcases abs_cases (x - y) with ⟨h₁, _⟩ | ⟨h₁, _⟩ <;>
    rcases abs_cases (x - y') with ⟨h₂, _⟩ | ⟨h₂, _⟩ <;>
      rcases abs_cases (x - z) with ⟨h₃, _⟩ | ⟨h₃, _⟩ <;> linarith

/-- **There is only one number to which another is rounded.** -/
theorem Rounded.unique (h : Rounded x y) (h' : Rounded x y') : y = y' := by
  by_contra hne
  have htie : |x - y'| = |x - y| :=
    le_antisymm (h'.closest y h.representable) (h.closest y' h'.representable)
  obtain ⟨m, e, hcanonical, heven, hy⟩ := h.even y' h'.representable (Ne.symm hne) htie
  obtain ⟨m', e', hcanonical', heven', hy'⟩ := h'.even y h.representable hne htie.symm
  -- there is a number between the two, and it is nearer than either
  rcases lt_or_gt_of_ne hne with hlt | hgt
  · obtain ⟨z, hz, hlo, hhi⟩ :=
      hcanonical.exists_between hcanonical' heven heven' (by rwa [← hy, ← hy'])
    rw [← hy] at hlo
    rw [← hy'] at hhi
    exact (h.closest z hz).not_gt (abs_sub_lt_of_between htie hlo hhi)
  · obtain ⟨z, hz, hlo, hhi⟩ :=
      hcanonical'.exists_between hcanonical heven' heven (by rwa [← hy, ← hy'])
    rw [← hy'] at hlo
    rw [← hy] at hhi
    exact (h'.closest z hz).not_gt (abs_sub_lt_of_between htie.symm hlo hhi)

/-- What lies beyond the middle between `a` and a binary64 number above it is not rounded down to `a`. -/
theorem Rounded.lt_of_middle_lt {a : ℚ} (h : Rounded x y) (hz : Representable z) (haz : a < z)
    (hx : (a + z) / 2 < x) : a < y := by
  by_contra hy
  rw [not_lt] at hy
  have hclosest := h.closest z hz
  rcases abs_cases (x - y) with ⟨h₁, _⟩ | ⟨h₁, _⟩ <;>
    rcases abs_cases (x - z) with ⟨h₂, _⟩ | ⟨h₂, _⟩ <;> linarith

theorem representable_natCast {n : ℕ} (h : n < 2 ^ 53) : Representable n :=
  ⟨n, 0, h, by norm_num, by rw [zpow_zero, mul_one]⟩

/-! ## The function that rounds -/

/-- The exponent of the unit of which the numbers around `x` are multiples. -/
def unitExponent (x : ℚ) : ℤ :=
  max (Int.log 2 x - 52) (-1074)

/-- The nearest binary64 number to a number that is not below zero. -/
def nearest (x : ℚ) : ℚ :=
  halfEven (x / 2 ^ unitExponent x) * 2 ^ unitExponent x

theorem nearest_zero : nearest 0 = 0 := by
  simp [nearest, halfEven]

theorem log_eq {k : ℤ} (hlo : 2 ^ k ≤ x) (hhi : x < 2 ^ (k + 1)) : Int.log 2 x = k := by
  have hpos : 0 < x := (two_zpow_pos k).trans_le hlo
  refine le_antisymm (Int.lt_add_one_iff.mp ?_) ?_
  · rwa [← Int.lt_zpow_iff_log_lt one_lt_two hpos]
  · rwa [← Int.zpow_le_iff_le_log one_lt_two hpos]

theorem lt_unit (x : ℚ) : x < 2 ^ 53 * 2 ^ unitExponent x := by
  have hlog : x < 2 ^ (Int.log 2 x + 1) := Int.lt_zpow_succ_log_self one_lt_two x
  calc x < 2 ^ (Int.log 2 x + 1) := hlog
    _ ≤ 2 ^ (53 + unitExponent x) := zpow_le_zpow_right₀ one_le_two (by unfold unitExponent; omega)
    _ = 2 ^ 53 * 2 ^ unitExponent x := by rw [zpow_add₀ two_ne_zero]; norm_cast

theorem unit_le (hx : 0 < x) (hleast : unitExponent x ≠ -1074) :
    2 ^ 52 * 2 ^ unitExponent x ≤ x := by
  have hlog : (2 : ℚ) ^ Int.log 2 x ≤ x := Int.zpow_log_le_self one_lt_two hx
  calc (2 : ℚ) ^ 52 * 2 ^ unitExponent x = 2 ^ (52 + unitExponent x) := by
        rw [zpow_add₀ two_ne_zero]; norm_cast
    _ = 2 ^ Int.log 2 x := by unfold unitExponent at hleast ⊢; congr 1; omega
    _ ≤ x := hlog

/-- **The numbers around `x` are multiples of its unit**; the others are smaller than all of `x`'s size. -/
theorem grid_cases (hx : 0 < x) (hz : Representable z) :
    (∃ k : ℕ, z = k * 2 ^ unitExponent x) ∨
      z < 2 ^ 52 * 2 ^ unitExponent x ∧ 2 ^ 52 * 2 ^ unitExponent x ≤ x := by
  obtain ⟨m, e, hm, he, rfl⟩ := hz
  rcases le_or_gt (unitExponent x) e with hle | hgt
  · exact .inl ⟨_, mul_zpow_eq hle m⟩
  · exact .inr ⟨lt_least_of_exponent_lt hm hgt, unit_le hx (by omega)⟩

/-- Distances in units. -/
theorem abs_sub_units {p : ℚ} (hp : 0 < p) (a : ℚ) : |x - a * p| = |x / p - a| * p := by
  rw [← abs_of_pos hp, ← abs_mul, abs_of_pos hp, sub_mul, div_mul_cancel₀ x hp.ne']

theorem abs_sub_nearest_le (hx : 0 ≤ x) (k : ℕ) :
    |x - nearest x| ≤ |x - k * 2 ^ unitExponent x| := by
  have hp := two_zpow_pos (unitExponent x)
  rw [nearest, abs_sub_units hp, abs_sub_units hp]
  exact mul_le_mul_of_nonneg_right (abs_sub_halfEven_le (by positivity) k) hp.le

/-- A number below the size of `x` is farther away than the least number of that size. -/
theorem abs_sub_nearest_lt (hx : 0 ≤ x) (hz : z < 2 ^ 52 * 2 ^ unitExponent x)
    (hsize : 2 ^ 52 * 2 ^ unitExponent x ≤ x) : |x - nearest x| < |x - z| := by
  have hleast := abs_sub_nearest_le hx (2 ^ 52)
  rw [Nat.cast_pow, Nat.cast_ofNat, abs_of_nonneg (sub_nonneg.mpr hsize)] at hleast
  linarith [le_abs_self (x - z)]

/-- The multiple of the unit that is nearest. -/
theorem canonical_nearest (hx : 0 < x) :
    Canonical (halfEven (x / 2 ^ unitExponent x)) (unitExponent x) ∨
      halfEven (x / 2 ^ unitExponent x) = 2 ^ 53 := by
  have hp := two_zpow_pos (unitExponent x)
  have hx' : 0 ≤ x / 2 ^ unitExponent x := by positivity
  have hle : halfEven (x / 2 ^ unitExponent x) ≤ 2 ^ 53 := by
    refine halfEven_le hx' ?_
    rw [div_le_iff₀ hp]
    exact_mod_cast (lt_unit x).le
  rcases hle.lt_or_eq with hlt | heq
  · refine .inl ⟨hlt, le_max_right _ _, ?_⟩
    by_cases hleast : unitExponent x = -1074
    · exact .inr hleast
    · refine .inl (le_halfEven hx' ?_)
      rw [le_div_iff₀ hp]
      exact_mod_cast unit_le hx hleast
  · exact .inr heq

theorem canonical_carry {e : ℤ} (he : -1074 ≤ e) : Canonical (2 ^ 52) (e + 1) :=
  ⟨by norm_num, by omega, .inl le_rfl⟩

theorem carry_eq (e : ℤ) : ((2 ^ 53 : ℕ) : ℚ) * 2 ^ e = ((2 ^ 52 : ℕ) : ℚ) * 2 ^ (e + 1) := by
  rw [zpow_add₀ two_ne_zero]
  push_cast
  ring

/-- **`nearest` rounds.** -/
theorem rounded_nearest (hx : 0 ≤ x) : Rounded x (nearest x) := by
  rcases hx.eq_or_lt with rfl | hpos
  · rw [nearest_zero]
    refine ⟨⟨0, 0, by norm_num, by norm_num, by simp⟩, fun z _ => by simp, fun z _ hne htie => ?_⟩
    simp only [zero_sub, abs_neg, neg_zero, abs_zero, abs_eq_zero] at htie
    exact absurd htie hne
  have hp := two_zpow_pos (unitExponent x)
  constructor
  case representable =>
    rcases canonical_nearest hpos with hcanonical | hcarry
    · exact hcanonical.representable
    · rw [nearest, hcarry, carry_eq]
      exact (canonical_carry (le_max_right _ _)).representable
  case closest =>
    intro z hz
    rcases grid_cases hpos hz with ⟨k, rfl⟩ | ⟨hlow, hsize⟩
    · exact abs_sub_nearest_le hx k
    · exact (abs_sub_nearest_lt hx hlow hsize).le
  case even =>
    intro z hz hne htie
    rcases grid_cases hpos hz with ⟨k, rfl⟩ | ⟨hlow, hsize⟩
    · have hk : k ≠ halfEven (x / 2 ^ unitExponent x) := by
        rintro rfl
        exact hne rfl
      rw [nearest, abs_sub_units hp, abs_sub_units hp] at htie
      have heven := even_halfEven (by positivity) hk (mul_right_cancel₀ hp.ne' htie)
      rcases canonical_nearest hpos with hcanonical | hcarry
      · exact ⟨_, _, hcanonical, heven, rfl⟩
      · refine ⟨2 ^ 52, unitExponent x + 1, canonical_carry (le_max_right _ _), by decide, ?_⟩
        rw [nearest, hcarry, carry_eq]
    -- a smaller number is never as near
    · exact absurd htie (abs_sub_nearest_lt hx hlow hsize).ne'

theorem rounded_iff (hx : 0 ≤ x) : Rounded x y ↔ y = nearest x := by
  constructor
  · exact fun h => h.unique (rounded_nearest hx)
  · rintro rfl
    exact rounded_nearest hx

theorem nearest_mono (hx : 0 ≤ x) (h : x ≤ x') : nearest x ≤ nearest x' := by
  rcases h.eq_or_lt with rfl | hlt
  · exact le_rfl
  · exact (rounded_nearest hx).le_of_lt (rounded_nearest (hx.trans h)) hlt

theorem nearest_nonneg (hx : 0 ≤ x) : 0 ≤ nearest x := by
  rw [← nearest_zero]
  exact nearest_mono le_rfl hx

theorem nearest_of_representable (hx : 0 ≤ x) (h : Representable x) : nearest x = x :=
  (rounded_nearest hx).eq_of_representable h

end Binary64

end RunSweep
