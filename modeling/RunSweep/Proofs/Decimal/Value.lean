import Mathlib.Order.WithBot
import RunSweep.Decimal.Binary64
import RunSweep.Proofs.Decimal.Rounding

/-!
# Floats as numbers

What a float denotes is a rational number, one of the two infinities, or nothing. `value?` gives the
number, and `position` puts the numbers between the infinities.

The library's floats come with the arithmetic of the language, which takes them apart in its own way;
`ofFloat_eq` says that it takes them apart as `ofFloat` does. A finite float is written in the one way
that is canonical, so the comparison of exponents and then mantissas is the comparison of the numbers:
floats are ordered as their positions are (`lt_iff`, `le_iff`), and one that is not a number is unrelated to
all.
-/

namespace RunSweep

namespace Binary64

open Float.Model (Format UnpackedFloat)
open Float.Model.UnpackedFloat (Sign unpackExponent unpackMantissa unpackSign)

/-! ## Values and positions -/

/-- The line of numbers, with an infinity at either end. -/
abbrev Line : Type :=
  WithBot (WithTop ℚ)

/-- Where a number stands on the line. -/
def Line.number (q : ℚ) : Line :=
  ((q : WithTop ℚ) : WithBot (WithTop ℚ))

namespace Line

variable {p q : ℚ}

@[simp] theorem number_lt_number : number p < number q ↔ p < q := by
  simp [number]

@[simp] theorem number_le_number : number p ≤ number q ↔ p ≤ q := by
  simp [number]

@[simp] theorem number_inj : number p = number q ↔ p = q := by
  simp [number]

@[simp] theorem bot_lt_number : (⊥ : Line) < number q :=
  WithBot.bot_lt_coe _

@[simp] theorem number_lt_top : number q < (⊤ : Line) :=
  WithBot.coe_lt_coe.mpr (WithTop.coe_lt_top q)

theorem compare_number : compare (number p) (number q) = compare p q := by
  simp [compare, compareOfLessAndEq]

@[simp] theorem compare_bot_number : compare (⊥ : Line) (number q) = .lt :=
  compare_lt_iff_lt.mpr bot_lt_number

@[simp] theorem compare_number_bot : compare (number q) (⊥ : Line) = .gt :=
  compare_gt_iff_gt.mpr bot_lt_number

@[simp] theorem compare_top_number : compare (⊤ : Line) (number q) = .gt :=
  compare_gt_iff_gt.mpr number_lt_top

@[simp] theorem compare_number_top : compare (number q) (⊤ : Line) = .lt :=
  compare_lt_iff_lt.mpr number_lt_top

@[simp] theorem compare_bot_top : compare (⊥ : Line) ⊤ = .lt :=
  compare_lt_iff_lt.mpr bot_lt_top

@[simp] theorem compare_top_bot : compare (⊤ : Line) ⊥ = .gt :=
  compare_gt_iff_gt.mpr bot_lt_top

end Line

/-- The number that a finite value is. -/
def value? : Binary64 → Option ℚ
  | finite negative mantissa exponent _ =>
      some (if negative then -(mantissa * 2 ^ exponent) else mantissa * 2 ^ exponent)
  | _ => none

/-- Where a value stands on the line, if it is a number or an infinity. -/
def position : Binary64 → Option Line
  | notANumber => none
  | infinite negative => some (if negative then ⊥ else ⊤)
  | finite negative mantissa exponent edge =>
      (value? (finite negative mantissa exponent edge)).map Line.number

theorem position_of_value {v : Binary64} {q : ℚ} (h : v.value? = some q) :
    v.position = some (.number q) := by
  cases v with
  | finite negative m e edge => rw [position, h, Option.map_some]
  | _ => cases h

theorem isFinite_iff {v : Binary64} : v.isFinite = true ↔ ∃ q, v.value? = some q := by
  cases v <;> simp [isFinite, value?]

/-- Neither zero is negative, nor is any value that is a number not below zero. -/
theorem isNegative_iff {v : Binary64} {q : ℚ} (h : v.value? = some q) :
    v.isNegative = true ↔ q < 0 := by
  cases v with
  | finite negative m e edge =>
      have hp := two_zpow_pos e
      cases negative <;> cases h
      · simpa [isNegative] using mul_nonneg m.cast_nonneg hp.le
      · simp [isNegative, hp, Nat.pos_iff_ne_zero]
  | _ => cases h

/-- A product with a power of two is an integer if the power divides what it is to divide. -/
theorem exists_int_iff (m : ℕ) (e : ℤ) :
    (∃ k : ℤ, (m : ℚ) * 2 ^ e = k) ↔ m % 2 ^ (-e).toNat = 0 := by
  obtain ⟨n, rfl | rfl⟩ := e.eq_nat_or_neg
  · have hnone : (-(n : ℤ)).toNat = 0 := by omega
    rw [hnone, pow_zero, Nat.mod_one]
    refine iff_of_true ⟨m * 2 ^ n, ?_⟩ rfl
    rw [zpow_natCast]
    norm_cast
  · have hp : (2 : ℚ) ^ n ≠ 0 := by positivity
    rw [neg_neg, Int.toNat_natCast, ← Nat.dvd_iff_mod_eq_zero, ← Int.natCast_dvd_natCast]
    refine exists_congr fun k => ?_
    rw [zpow_neg, zpow_natCast, ← div_eq_mul_inv, div_eq_iff hp, mul_comm]
    norm_cast

/-- **A value is whole if it is an integer.** -/
theorem isWhole_iff {v : Binary64} : v.isWhole = true ↔ ∃ k : ℤ, v.value? = some (k : ℚ) := by
  cases v with
  | finite negative m e edge =>
      have hwhole : (finite negative m e edge).isWhole = true ↔ m % 2 ^ (-e).toNat = 0 := beq_iff_eq
      rw [hwhole, ← exists_int_iff]
      cases negative with
      | false => simp [value?]
      | true =>
          constructor
          · rintro ⟨k, hk⟩
            exact ⟨-k, by simp [value?, hk]⟩
          · rintro ⟨k, hk⟩
            simp only [value?, if_true, Option.some.injEq] at hk
            exact ⟨-k, by rw [Int.cast_neg, ← hk, neg_neg]⟩
  | _ => simp [isWhole, value?]

/-! ## Canonical writing -/

/-- A finite value is written in the canonical way. -/
def WellFormed : Binary64 → Prop
  | finite _ m e _ => Canonical m e
  | _ => True

theorem wellFormed_ofBits (bits : ℕ) : (ofBits bits).WellFormed := by
  simp only [ofBits, Nat.pow_eq]
  split_ifs <;> simp only [WellFormed]
  · exact ⟨by omega, le_rfl, .inr rfl⟩
  · exact ⟨by omega, by omega, .inl (by omega)⟩

theorem wellFormed_ofFloat (x : Float) : (ofFloat x).WellFormed :=
  wellFormed_ofBits _

/-! ## The two ways to take a float apart -/

/-- What a float that is taken apart denotes. -/
def ofUnpacked : UnpackedFloat → Binary64
  | .notANumber => notANumber
  | .infinity sign => infinite (sign == .negative)
  | .zero sign => finite (sign == .negative) 0 (-1074) false
  | .finite sign m e _ => finite (sign == .negative) m e (m == 2 ^ 52 && decide (-1074 < e))

theorem ofUnpacked_infinity (sign : Sign) :
    ofUnpacked (.infinity sign) = infinite (sign == .negative) := rfl

theorem ofUnpacked_zero (sign : Sign) :
    ofUnpacked (.zero sign) = finite (sign == .negative) 0 (-1074) false := rfl

theorem ofUnpacked_finite (sign : Sign) {m : ℕ} {e : ℤ} (hm : 0 < m) :
    ofUnpacked (.finite sign m e hm) =
      finite (sign == .negative) m e (m == 2 ^ 52 && decide (-1074 < e)) := rfl

section Fields

variable (b : BitVec Format.binary64.numBits)

theorem toNat_unpackMantissa :
    (unpackMantissa b).toNat = b.toNat % 2 ^ 52 := by
  simp [unpackMantissa]

theorem toNat_unpackExponent :
    (unpackExponent b).toNat = b.toNat / 2 ^ 52 % 2 ^ 11 := by
  simp [unpackExponent, Nat.shiftRight_eq_div_pow]

theorem toNat_unpackSign :
    (unpackSign b).toNat = b.toNat / 2 ^ 63 % 2 := by
  delta unpackSign
  simp [Nat.shiftRight_eq_div_pow]

theorem toNat_implicit (m : BitVec 52) : (1#1 ++ m).toNat = 2 ^ 52 + m.toNat := by
  rw [BitVec.toNat_append, ← Nat.shiftLeft_add_eq_or_of_lt m.isLt]
  rfl

theorem exponentBias_eq : Format.binary64.exponentBias = 1023 := rfl

theorem sign_negative_iff :
    (Sign.ofBitVec (unpackSign b) == .negative) =
      (b.toNat / 2 ^ 63 % 2 == 1) := by
  rw [← toNat_unpackSign]
  generalize unpackSign b = sign
  revert sign
  decide

/-- **The two ways to take 64 bits apart agree.** -/
theorem ofBits_eq : ofBits b.toNat = ofUnpacked (UnpackedFloat.unpack Format.binary64 b) := by
  have hfraction := toNat_unpackMantissa b
  have hbiased := toNat_unpackExponent b
  have hfull : unpackExponent b = -1#11 ↔
      b.toNat / 2 ^ 52 % 2 ^ 11 = 2047 := by
    rw [← BitVec.toNat_inj, hbiased]
    rfl
  have hleast : unpackExponent b = 0#11 ↔
      b.toNat / 2 ^ 52 % 2 ^ 11 = 0 := by
    rw [← BitVec.toNat_inj, hbiased]
    rfl
  have hnone : unpackMantissa b = 0#52 ↔ b.toNat % 2 ^ 52 = 0 := by
    rw [← BitVec.toNat_inj, hfraction]
    rfl
  delta UnpackedFloat.unpack
  dsimp only [ofBits, Nat.pow_eq]
  by_cases hexponent : unpackExponent b = -1#11
  · rw [if_pos (hfull.mp hexponent), if_pos hexponent]
    by_cases hmantissa : unpackMantissa b = 0#52
    · rw [if_pos (hnone.mp hmantissa), if_pos hmantissa, ofUnpacked_infinity, sign_negative_iff]
    · rw [if_neg (hnone.not.mp hmantissa), if_neg hmantissa]
      rfl
  rw [if_neg (hfull.not.mp hexponent), if_neg hexponent]
  by_cases hsmall : unpackExponent b = 0#11
  · rw [if_pos (hleast.mp hsmall), if_pos hsmall]
    by_cases hmantissa : unpackMantissa b = 0#52
    · rw [dif_pos hmantissa, ofUnpacked_zero, sign_negative_iff, hnone.mp hmantissa]
    -- a mantissa without the implicit bit is no edge
    · have hinner : (b.toNat % 2 ^ 52 == 2 ^ 52) = false :=
        beq_eq_false_iff_ne.mpr (Nat.mod_lt _ (by decide)).ne
      rw [dif_neg hmantissa, ofUnpacked_finite, sign_negative_iff, hfraction, hinner, Bool.false_and,
        hbiased, hleast.mp hsmall]
      rfl
  · have hedge : (2 ^ 52 + b.toNat % 2 ^ 52 == 2 ^ 52) = (b.toNat % 2 ^ 52 == 0) := by
      rw [Bool.eq_iff_iff, beq_iff_eq, beq_iff_eq]
      omega
    have hlow : 1 < b.toNat / 2 ^ 52 % 2 ^ 11 ↔
        (-1074 : ℤ) < (b.toNat / 2 ^ 52 % 2 ^ 11 : ℕ) - ((1023 : ℕ) + (52 : ℕ)) := by omega
    rw [if_neg (hleast.not.mp hsmall), if_neg hsmall, ofUnpacked_finite, sign_negative_iff,
      toNat_implicit, hfraction, hbiased, exponentBias_eq, hedge, decide_eq_decide.mpr hlow]
    rfl

end Fields

theorem ofFloat_eq (x : Float) : ofFloat x = ofUnpacked x.toModel.unpack :=
  ofBits_eq _

/-! ## The order -/

/-- Numbers that are written canonically are compared by exponent and then by mantissa. -/
theorem Canonical.compare_eq {m m' : ℕ} {e e' : ℤ} (h : Canonical m e) (h' : Canonical m' e') :
    (compare e e').then (compare m m') = compare ((m : ℚ) * 2 ^ e) (m' * 2 ^ e') := by
  rcases lt_trichotomy e e' with hlt | rfl | hgt
  · rw [compare_lt_iff_lt.mpr hlt, compare_lt_iff_lt.mpr (h.lt_of_exponent_lt h' hlt)]
    rfl
  · rw [compare_eq_iff_eq.mpr rfl, Ordering.then]
    rcases lt_trichotomy m m' with hlt | rfl | hgt
    · rw [compare_lt_iff_lt.mpr hlt, eq_comm, compare_lt_iff_lt]
      exact mul_lt_mul_of_pos_right (by exact_mod_cast hlt) (two_zpow_pos e)
    · rw [compare_eq_iff_eq.mpr rfl, compare_eq_iff_eq.mpr rfl]
    · rw [compare_gt_iff_gt.mpr hgt, eq_comm, compare_gt_iff_gt]
      exact mul_lt_mul_of_pos_right (by exact_mod_cast hgt) (two_zpow_pos e)
  · rw [compare_gt_iff_gt.mpr hgt, compare_gt_iff_gt.mpr (h'.lt_of_exponent_lt h hgt)]
    rfl

section Unpacked

variable {m : ℕ} {e : ℤ} (hm : 0 < m)

@[simp] theorem position_infinity_negative : (ofUnpacked (.infinity .negative)).position = some ⊥ := rfl

@[simp] theorem position_infinity_positive : (ofUnpacked (.infinity .positive)).position = some ⊤ := rfl

@[simp] theorem position_notANumber : (ofUnpacked .notANumber).position = none := rfl

@[simp] theorem position_zero (sign : Sign) :
    (ofUnpacked (.zero sign)).position = some (.number 0) := by
  rw [ofUnpacked_zero]
  cases sign <;> simp [position, value?]

@[simp] theorem position_negative :
    (ofUnpacked (.finite .negative m e hm)).position = some (.number (-(m * 2 ^ e))) := rfl

@[simp] theorem position_positive :
    (ofUnpacked (.finite .positive m e hm)).position = some (.number (m * 2 ^ e)) := rfl

end Unpacked

theorem compare_neg (p q : ℚ) : compare (-p) (-q) = (compare p q).swap := by
  rcases lt_trichotomy p q with hlt | rfl | hgt
  · rw [compare_lt_iff_lt.mpr hlt, compare_gt_iff_gt.mpr (neg_lt_neg hlt), Ordering.swap]
  · rw [compare_eq_iff_eq.mpr rfl, compare_eq_iff_eq.mpr rfl, Ordering.swap]
  · rw [compare_gt_iff_gt.mpr hgt, compare_lt_iff_lt.mpr (neg_lt_neg hgt), Ordering.swap]

/-- What is taken apart is compared as the positions are, and what has none is not compared. -/
theorem compare_unpacked {u v : UnpackedFloat} (hu : (ofUnpacked u).WellFormed)
    (hv : (ofUnpacked v).WellFormed) :
    u.compare v = (ofUnpacked u).position.bind fun p => (ofUnpacked v).position.map (compare p) := by
  symm
  rcases u with ⟨⟨⟩⟩ | ⟨⟩ | s | ⟨⟨⟩, m, e, hm⟩ <;> rcases v with ⟨⟨⟩⟩ | ⟨⟩ | s' | ⟨⟨⟩, m', e', hm'⟩ <;>
    dsimp only [UnpackedFloat.compare, position_infinity_negative, position_infinity_positive,
      position_notANumber, position_negative, position_positive] <;>
    simp only [position_zero, Option.bind_some, Option.bind_none, Option.map_some, Option.map_none,
      Option.some.injEq, Line.compare_number, Line.compare_bot_number, Line.compare_number_bot,
      Line.compare_top_number, Line.compare_number_top, Line.compare_bot_top, Line.compare_top_bot]
  case infinity.negative.infinity.negative => rfl
  case infinity.negative.infinity.positive => rfl
  case infinity.positive.infinity.negative => rfl
  case infinity.positive.infinity.positive => rfl
  case zero.zero => exact compare_eq_iff_eq.mpr rfl
  case zero.finite.negative => exact compare_gt_iff_gt.mpr (neg_lt_zero.mpr (mul_zpow_pos hm' e'))
  case zero.finite.positive => exact compare_lt_iff_lt.mpr (mul_zpow_pos hm' e')
  case finite.negative.zero => exact compare_lt_iff_lt.mpr (neg_lt_zero.mpr (mul_zpow_pos hm e))
  case finite.positive.zero => exact compare_gt_iff_gt.mpr (mul_zpow_pos hm e)
  case finite.negative.finite.positive =>
    exact compare_lt_iff_lt.mpr ((neg_lt_zero.mpr (mul_zpow_pos hm e)).trans (mul_zpow_pos hm' e'))
  case finite.positive.finite.negative =>
    exact compare_gt_iff_gt.mpr ((neg_lt_zero.mpr (mul_zpow_pos hm' e')).trans (mul_zpow_pos hm e))
  case finite.positive.finite.positive => exact (Canonical.compare_eq hu hv).symm
  case finite.negative.finite.negative => rw [compare_neg, Canonical.compare_eq hu hv]

variable {x y z : Float}

theorem compare_floats (x y : Float) : x.toModel.unpack.compare y.toModel.unpack =
    (ofFloat x).position.bind fun p => (ofFloat y).position.map (compare p) := by
  have hx := wellFormed_ofFloat x
  have hy := wellFormed_ofFloat y
  rw [ofFloat_eq] at hx hy
  rw [ofFloat_eq, ofFloat_eq, compare_unpacked hx hy]

/-- **One float is below another** if both have a position and the positions are in that order. -/
theorem lt_iff : x < y ↔
    ∃ p q, (ofFloat x).position = some p ∧ (ofFloat y).position = some q ∧ p < q := by
  have hlt : x < y ↔ x.toModel.unpack.compare y.toModel.unpack = some .lt := by
    change decide (_ = true) = true ↔ _
    rw [decide_eq_true_eq]
    exact beq_iff_eq
  rw [hlt, compare_floats]
  cases (ofFloat x).position <;> cases (ofFloat y).position <;> simp [compare_lt_iff_lt]

theorem le_iff : x ≤ y ↔
    ∃ p q, (ofFloat x).position = some p ∧ (ofFloat y).position = some q ∧ p ≤ q := by
  have hle : x ≤ y ↔ (x.toModel.unpack.compare y.toModel.unpack).any (·.isLE) = true := by
    change decide (_ = true) = true ↔ _
    rw [decide_eq_true_eq]
    rfl
  rw [hle, compare_floats]
  cases (ofFloat x).position <;> cases (ofFloat y).position <;>
    simp [← Ordering.ne_gt_iff_isLE, compare_gt_iff_gt]

theorem lt_of_lt_of_le (h : x < y) (h' : y ≤ z) : x < z := by
  obtain ⟨p, q, hx, hy, hlt⟩ := lt_iff.mp h
  obtain ⟨q', r, hy', hz, hle⟩ := le_iff.mp h'
  obtain rfl : q = q' := Option.some.inj (hy.symm.trans hy')
  exact lt_iff.mpr ⟨p, r, hx, hz, hlt.trans_le hle⟩

theorem lt_of_le_of_lt (h : x ≤ y) (h' : y < z) : x < z := by
  obtain ⟨p, q, hx, hy, hle⟩ := le_iff.mp h
  obtain ⟨q', r, hy', hz, hlt⟩ := lt_iff.mp h'
  obtain rfl : q = q' := Option.some.inj (hy.symm.trans hy')
  exact lt_iff.mpr ⟨p, r, hx, hz, hle.trans_lt hlt⟩

theorem lt_iff_of_value {p q : ℚ} (hx : (ofFloat x).value? = some p)
    (hy : (ofFloat y).value? = some q) : x < y ↔ p < q := by
  rw [lt_iff, position_of_value hx, position_of_value hy]
  simp

theorem le_iff_of_value {p q : ℚ} (hx : (ofFloat x).value? = some p)
    (hy : (ofFloat y).value? = some q) : x ≤ y ↔ p ≤ q := by
  rw [le_iff, position_of_value hx, position_of_value hy]
  simp

end Binary64

end RunSweep
