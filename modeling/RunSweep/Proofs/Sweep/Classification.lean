import RunSweep.Proofs.Decimal.Arithmetic
import RunSweep.Sweep.Disposition

/-!
# Which files are archived

The size of a file is rounded twice on its way to the comparison with the threshold: the count of bytes
becomes a float, and its product with the float nearest to one millionth is a float again. Neither step
reverses an order, so a larger file is never deleted where a smaller one is archived.

At a whole threshold of `n` megabytes the answer is exact while `n` is below `2 ^ 33`: a file is archived
if it has more than `n` million bytes. One byte more moves the product beyond the middle between `n` and
the next float, although the factor is a little below one millionth.
-/

namespace RunSweep

open Binary64

/-! ## The size in megabytes -/

/-- **The size of so many bytes**: the count rounded, times one millionth rounded, rounded. -/
def IsSize (bytes : ℕ) (size : ℚ) : Prop :=
  ∃ count factor, Rounded bytes count ∧ Rounded (1 / 10 ^ 6) factor ∧ Rounded (count * factor) size

/-- The number that is compared with the threshold. -/
def sizeValue (bytes : ℕ) : ℚ :=
  nearest (nearest bytes * nearest (1 / 10 ^ 6))

section SizeValue

variable {a b n : ℕ}

theorem product_nonneg (bytes : ℕ) : 0 ≤ nearest bytes * nearest (1 / 10 ^ 6) :=
  mul_nonneg (nearest_nonneg bytes.cast_nonneg) (nearest_nonneg (by norm_num))

/-- The exact count, factor and product have only one size. -/
theorem isSize_iff {bytes : ℕ} {size : ℚ} : IsSize bytes size ↔ size = sizeValue bytes := by
  have hfactor : (0 : ℚ) ≤ 1 / 10 ^ 6 := by norm_num
  constructor
  · rintro ⟨count, factor, hcount, hrounded, hproduct⟩
    rw [rounded_iff bytes.cast_nonneg] at hcount
    rw [rounded_iff hfactor] at hrounded
    rw [hcount, hrounded, rounded_iff (product_nonneg bytes)] at hproduct
    exact hproduct
  · rintro rfl
    exact ⟨_, _, rounded_nearest bytes.cast_nonneg, rounded_nearest hfactor,
      rounded_nearest (product_nonneg bytes)⟩

theorem product_mono (h : a ≤ b) :
    nearest a * nearest (1 / 10 ^ 6) ≤ nearest b * nearest (1 / 10 ^ 6) :=
  mul_le_mul_of_nonneg_right (nearest_mono a.cast_nonneg (by exact_mod_cast h))
    (nearest_nonneg (by norm_num))

theorem sizeValue_mono (h : a ≤ b) : sizeValue a ≤ sizeValue b :=
  nearest_mono (product_nonneg a) (product_mono h)

/-- A count that is a float is multiplied as it is. -/
theorem product_eq (hb : b < 2 ^ 53) :
    nearest b * nearest (1 / 10 ^ 6) = b * (4722366482869645 * 2 ^ (-72 : ℤ)) := by
  rw [nearest_of_representable b.cast_nonneg (representable_natCast hb), nearest_millionth]

theorem sizeValue_le (hn : n < 2 ^ 33) (h : b ≤ n * 1000000) : sizeValue b ≤ n := by
  obtain ⟨limit, hlimit⟩ : ∃ limit, limit = n * 1000000 := ⟨_, rfl⟩
  have hcast : (limit : ℚ) = n * 1000000 := by exact_mod_cast hlimit
  have hwhole : nearest (n : ℚ) = n :=
    nearest_of_representable n.cast_nonneg (representable_natCast (by omega))
  rw [← hwhole]
  refine nearest_mono (product_nonneg b) ?_
  calc nearest (b : ℚ) * nearest (1 / 10 ^ 6)
      ≤ nearest limit * nearest (1 / 10 ^ 6) := product_mono (by omega)
    _ = limit * (4722366482869645 * 2 ^ (-72 : ℤ)) := product_eq (by omega)
    _ ≤ n := by
      rw [hcast]
      norm_num
      linarith [(n.cast_nonneg : (0 : ℚ) ≤ n)]

/-- The numbers below `2 ^ 33` lie no farther apart than this. -/
theorem representable_next (hn : n < 2 ^ 33) : Representable (n + 2 ^ (-20 : ℤ)) := by
  refine ⟨n * 2 ^ 20 + 1, -20, by omega, by norm_num, ?_⟩
  push_cast
  norm_num
  ring

theorem lt_sizeValue (hn : n < 2 ^ 33) (h : n * 1000000 < b) : (n : ℚ) < sizeValue b := by
  obtain ⟨least, hleast⟩ : ∃ least, least = n * 1000000 + 1 := ⟨_, rfl⟩
  have hcast : (least : ℚ) = n * 1000000 + 1 := by exact_mod_cast hleast
  have hn' : (n : ℚ) < 8589934592 := by exact_mod_cast hn
  refine (rounded_nearest (product_nonneg b)).lt_of_middle_lt (representable_next hn) (by norm_num) ?_
  calc ((n : ℚ) + (n + 2 ^ (-20 : ℤ))) / 2 < least * (4722366482869645 * 2 ^ (-72 : ℤ)) := by
        rw [hcast]
        norm_num
        linarith
    _ = nearest least * nearest (1 / 10 ^ 6) := (product_eq (by omega)).symm
    _ ≤ nearest b * nearest (1 / 10 ^ 6) := product_mono (by omega)

end SizeValue

theorem value_sizeInMegabytes (bytes : UInt64) :
    (ofFloat (sizeInMegabytes bytes)).value? = some (sizeValue bytes.toNat) := by
  have hcount : nearest (bytes.toNat : ℚ) ≤ 2 ^ 64 :=
    nearest_le bytes.toNat.cast_nonneg (by exact_mod_cast bytes.toNat_lt.le)
  have hfactor : nearest (1 / 10 ^ 6) ≤ 1 := by
    rw [nearest_millionth]
    norm_num
  have hcount' := nearest_nonneg bytes.toNat.cast_nonneg
  have hfactor' : 0 ≤ nearest (1 / 10 ^ 6) := nearest_nonneg (by norm_num)
  refine value_mul (value_toFloat bytes) value_millionth hcount' hfactor' ?_
  exact nearest_lt (product_nonneg _) ((mul_le_of_le_one_right hcount' hfactor).trans hcount)

/-- **The float that is compared is the size of the file.** -/
theorem isSize_iff_value {bytes : UInt64} {size : ℚ} :
    IsSize bytes.toNat size ↔ (ofFloat (sizeInMegabytes bytes)).value? = some size := by
  rw [isSize_iff, value_sizeInMegabytes, Option.some.injEq, eq_comm]

theorem exists_unique_size (bytes : UInt64) : ∃! size, IsSize bytes.toNat size :=
  ⟨_, isSize_iff.mpr rfl, fun _ => isSize_iff.mp⟩

theorem classify_eq_archive_iff {bytes : UInt64} {threshold : Float} :
    classify bytes threshold = .archive ↔ threshold < sizeInMegabytes bytes := by
  unfold classify
  split_ifs with h <;> simpa using h

/-! ## The boundary at a whole threshold -/

/-- A whole number is a threshold. -/
theorem exists_threshold {n : ℕ} (hn : n < 2 ^ 53) :
    ∃ threshold, (ofFloat threshold).value? = some (n : ℚ) := by
  have hcount : (UInt64.ofNat n).toNat = n := UInt64.toNat_ofNat_of_lt (hn.trans (by decide))
  refine ⟨(UInt64.ofNat n).toFloat, ?_⟩
  rw [value_toFloat, hcount, nearest_of_representable n.cast_nonneg (representable_natCast hn)]

/-- **The boundary at a whole threshold is exact.** The size that is compared is the exact size, rounded,
and still a file is archived if and only if it has more than `n` million bytes. -/
theorem archived_iff_above_whole_threshold (bytes : UInt64) (n : ℕ) (hn : n < 2 ^ 33) :
    (∃! size, IsSize bytes.toNat size) ∧
      (∀ size, IsSize bytes.toNat size ↔ (ofFloat (sizeInMegabytes bytes)).value? = some size) ∧
      (∃ threshold, (ofFloat threshold).value? = some (n : ℚ)) ∧
      ∀ threshold, (ofFloat threshold).value? = some (n : ℚ) →
        (classify bytes threshold = .archive ↔ n * 1000000 < bytes.toNat) := by
  refine ⟨exists_unique_size bytes, fun size => isSize_iff_value, exists_threshold (by omega), ?_⟩
  intro threshold hthreshold
  rw [classify_eq_archive_iff, lt_iff_of_value hthreshold (value_sizeInMegabytes bytes)]
  constructor
  · intro habove
    by_contra hle
    exact (sizeValue_le hn (not_lt.mp hle)).not_gt habove
  · exact lt_sizeValue hn

/-- The largest whole threshold of the theorem, at the two counts around it. -/
theorem boundary_at_largest_whole_threshold :
    ((8589934591 : ℕ) < 2 ^ 33 ∧ (ofFloat 8589934591).value? = some ((8589934591 : ℕ) : ℚ)) ∧
      classify 8589934591000001 8589934591 = .archive ∧
      ¬ classify 8589934591000000 8589934591 = .archive := by
  have hn : (8589934591 : ℕ) < 2 ^ 33 := by norm_num
  have hvalue : (ofFloat 8589934591).value? = some ((8589934591 : ℕ) : ℚ) := by
    have hbits : ofFloat 8589934591 = .finite false 9007199253692416 (-20) false := rfl
    rw [hbits, value?]
    norm_num
  have habove := archived_iff_above_whole_threshold 8589934591000001 8589934591 hn
  have hat := archived_iff_above_whole_threshold 8589934591000000 8589934591 hn
  exact ⟨⟨hn, hvalue⟩, (habove.2.2.2 _ hvalue).mpr (by decide),
    fun h => absurd ((hat.2.2.2 _ hvalue).mp h) (by decide)⟩

/-- At the next threshold the float that follows is too far away. -/
example : classify 8589934592000001 8589934592 = .delete := rfl

/-! ## Larger files and lower thresholds -/

/-- **Nothing is archived for being smaller, or against a higher threshold.** The size that is compared is
the exact size, rounded, and grows with the count; so a file is archived wherever a smaller one is, and
under every threshold that does not exceed one under which it is archived. -/
theorem archiving_is_monotone :
    (∀ bytes : UInt64, (∃! size, IsSize bytes.toNat size) ∧
      ∀ size, IsSize bytes.toNat size ↔ (ofFloat (sizeInMegabytes bytes)).value? = some size) ∧
    (∀ a b : UInt64, a ≤ b → sizeInMegabytes a ≤ sizeInMegabytes b ∧
      ∀ threshold, classify a threshold = .archive → classify b threshold = .archive) ∧
    ∀ (bytes : UInt64) (lower upper : Float), lower ≤ upper →
      classify bytes upper = .archive → classify bytes lower = .archive := by
  refine ⟨fun bytes => ⟨exists_unique_size bytes, fun size => isSize_iff_value⟩, ?_, ?_⟩
  · intro a b hab
    have hsize : sizeInMegabytes a ≤ sizeInMegabytes b := by
      rw [le_iff_of_value (value_sizeInMegabytes a) (value_sizeInMegabytes b)]
      exact sizeValue_mono (UInt64.le_iff_toNat_le.mp hab)
    refine ⟨hsize, fun threshold hfate => ?_⟩
    rw [classify_eq_archive_iff] at hfate ⊢
    exact Binary64.lt_of_lt_of_le hfate hsize
  · intro bytes lower upper hthreshold hfate
    rw [classify_eq_archive_iff] at hfate ⊢
    exact Binary64.lt_of_le_of_lt hthreshold hfate

/-- Counts that no float tells apart, a fractional threshold and an infinite one. -/
theorem monotone_beyond_exact_counts :
    ((9007199254740992 : UInt64) ≤ 9007199254740993 ∧ (-1.0 / 0.0 : Float) ≤ 9007199254.5 ∧
      classify 9007199254740992 9007199254.5 = .archive) ∧
      sizeInMegabytes 9007199254740992 ≤ sizeInMegabytes 9007199254740993 ∧
      classify 9007199254740993 9007199254.5 = .archive ∧
      classify 9007199254740993 (-1.0 / 0.0) = .archive := by
  have hcount : (9007199254740992 : UInt64) ≤ 9007199254740993 := by decide
  have hthreshold : (-1.0 / 0.0 : Float) ≤ 9007199254.5 := rfl
  have hfate : classify 9007199254740992 9007199254.5 = .archive := rfl
  have hlarger := archiving_is_monotone.2.1 _ _ hcount
  have hfate' := hlarger.2 _ hfate
  exact ⟨⟨hcount, hthreshold, hfate⟩, hlarger.1, hfate', archiving_is_monotone.2.2 _ _ _ hthreshold hfate'⟩

end RunSweep
