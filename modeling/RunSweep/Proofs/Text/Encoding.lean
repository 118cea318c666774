import RunSweep.Text.Utf8
import Mathlib.Tactic.IntervalCases

/-!
# Text as bytes

The bytes of a text are read back as the text: `pieces` cuts off one character after another, each with
the bytes that `encode` gave it. So texts are told apart by their bytes, which is what names of files rely
on. `IsText` holds of the bytes of texts, and the bytes around an ASCII character are such bytes again.
-/

namespace RunSweep.Utf8

theorem toNat_ofNat_byte {n : ℕ} (h : n < 256) : (UInt8.ofNat n).toNat = n := by
  rw [UInt8.toNat_ofNat']
  exact Nat.mod_eq_of_lt h

theorem ofNat_lt_ascii {n : ℕ} (hn : n < 256) : UInt8.ofNat n < 0x80 ↔ n < 0x80 := by
  rw [UInt8.lt_iff_toNat_lt, toNat_ofNat_byte hn]
  rfl

/-! ## Reading a character back -/

/-- A byte within the bounds is taken for a continuation of six bits. -/
theorem takeTail_ofNat {bits n m : ℕ} {seen rest : Bytes} {lowest highest : UInt8} (hm : m < 64)
    (hlow : lowest ≤ UInt8.ofNat (m + 0x80)) (hhigh : UInt8.ofNat (m + 0x80) ≤ highest) :
    takeTail bits seen lowest highest (n + 1) (UInt8.ofNat (m + 0x80) :: rest) =
      takeTail (bits * 0x40 + m) (UInt8.ofNat (m + 0x80) :: seen) 0x80 0xBF n rest := by
  have hbits : (m + 0x80) % 0x40 = m := by omega
  rw [takeTail, if_pos ⟨hlow, hhigh⟩, toNat_ofNat_byte (by omega), hbits]

/-- The bounds of a continuation byte other than the first. -/
theorem tail_bounds {m : ℕ} (hm : m < 64) :
    0x80 ≤ UInt8.ofNat (m + 0x80) ∧ UInt8.ofNat (m + 0x80) ≤ 0xBF := by
  rw [UInt8.le_iff_toNat_le, UInt8.le_iff_toNat_le, toNat_ofNat_byte (by omega)]
  exact ⟨Nat.le_add_left _ _, by show m + 128 ≤ 191; omega⟩

theorem takePiece_two {q m : ℕ} (hq : 2 ≤ q) (hq' : q < 32) (hm : m < 64) (rest : Bytes) :
    takePiece (UInt8.ofNat (q + 0xC0)) (UInt8.ofNat (m + 0x80) :: rest) =
      (.char (Char.ofNat (q * 0x40 + m)), rest) := by
  have hk : continuation? (UInt8.ofNat (q + 0xC0)) = some ⟨q, 0x80, 0xBF, 0⟩ := by
    interval_cases q <;> rfl
  obtain ⟨hlow, hhigh⟩ := tail_bounds hm
  rw [takePiece, if_neg (by rw [ofNat_lt_ascii (by omega)]; omega), hk]
  show takeTail q _ 0x80 0xBF 1 _ = _
  rw [takeTail_ofNat hm hlow hhigh, takeTail]

theorem takePiece_three {q m k : ℕ} (hq : q < 16) (hm : m < 64) (hk : k < 64)
    (hlong : q = 0 → 32 ≤ m) (hsurrogate : q = 13 → m < 32) (rest : Bytes) :
    takePiece (UInt8.ofNat (q + 0xE0)) (UInt8.ofNat (m + 0x80) :: UInt8.ofNat (k + 0x80) :: rest) =
      (.char (Char.ofNat ((q * 0x40 + m) * 0x40 + k)), rest) := by
  -- the first byte bounds the second, which keeps out overlong forms and surrogates
  have hfirst : ∃ lowest highest,
      continuation? (UInt8.ofNat (q + 0xE0)) = some ⟨q, lowest, highest, 1⟩ ∧
        lowest ≤ UInt8.ofNat (m + 0x80) ∧ UInt8.ofNat (m + 0x80) ≤ highest := by
    interval_cases q <;> refine ⟨_, _, rfl, ?_, ?_⟩ <;>
      rw [UInt8.le_iff_toNat_le, toNat_ofNat_byte (by omega)] <;> simp <;> omega
  obtain ⟨lowest, highest, hcont, hlow, hhigh⟩ := hfirst
  obtain ⟨hlow', hhigh'⟩ := tail_bounds hk
  rw [takePiece, if_neg (by rw [ofNat_lt_ascii (by omega)]; omega), hcont]
  show takeTail q _ lowest highest 2 _ = _
  rw [takeTail_ofNat hm hlow hhigh, takeTail_ofNat hk hlow' hhigh', takeTail]

theorem takePiece_four {q m k l : ℕ} (hq : q < 5) (hm : m < 64) (hk : k < 64) (hl : l < 64)
    (hlong : q = 0 → 16 ≤ m) (hlarge : q = 4 → m < 16) (rest : Bytes) :
    takePiece (UInt8.ofNat (q + 0xF0))
        (UInt8.ofNat (m + 0x80) :: UInt8.ofNat (k + 0x80) :: UInt8.ofNat (l + 0x80) :: rest) =
      (.char (Char.ofNat (((q * 0x40 + m) * 0x40 + k) * 0x40 + l)), rest) := by
  -- the first byte bounds the second, which keeps out overlong forms and what is no code point
  have hfirst : ∃ lowest highest,
      continuation? (UInt8.ofNat (q + 0xF0)) = some ⟨q, lowest, highest, 2⟩ ∧
        lowest ≤ UInt8.ofNat (m + 0x80) ∧ UInt8.ofNat (m + 0x80) ≤ highest := by
    interval_cases q <;> refine ⟨_, _, rfl, ?_, ?_⟩ <;>
      rw [UInt8.le_iff_toNat_le, toNat_ofNat_byte (by omega)] <;> simp <;> omega
  obtain ⟨lowest, highest, hcont, hlow, hhigh⟩ := hfirst
  obtain ⟨hlow₁, hhigh₁⟩ := tail_bounds hk
  obtain ⟨hlow₂, hhigh₂⟩ := tail_bounds hl
  rw [takePiece, if_neg (by rw [ofNat_lt_ascii (by omega)]; omega), hcont]
  show takeTail q _ lowest highest 3 _ = _
  rw [takeTail_ofNat hm hlow hhigh, takeTail_ofNat hk hlow₁ hhigh₁,
    takeTail_ofNat hl hlow₂ hhigh₂, takeTail]

theorem pieces_cons {first : UInt8} {tail rest : Bytes} {c : Char}
    (h : takePiece first tail = (.char c, rest)) :
    pieces (first :: tail) = .char c :: pieces rest := by
  rw [pieces, h]

/-- An encoded character is cut off as that character. -/
theorem pieces_encodeChar (c : Char) (rest : Bytes) :
    pieces (String.utf8EncodeChar c ++ rest) = .char c :: pieces rest := by
  have hvalid : c.val.toNat < 0xD800 ∨ 0xDFFF < c.val.toNat ∧ c.val.toNat < 0x110000 := c.valid
  have hnat : Char.ofNat c.val.toNat = c := Char.ofNat_toNat c
  generalize hv : c.val.toNat = v at hvalid hnat
  rw [String.utf8EncodeChar, hv]
  -- one case for each number of bytes
  split_ifs with h₁ h₂ h₃
  · have hlt : UInt8.ofNat v < 0x80 := (ofNat_lt_ascii (by omega)).mpr (by omega)
    refine pieces_cons ?_
    rw [takePiece, if_pos hlt, toNat_ofNat_byte (by omega), hnat]
    rfl
  · refine pieces_cons ?_
    have hsum : v / 64 % 32 * 64 + v % 64 = v := by omega
    show takePiece _ (_ :: rest) = _
    rw [takePiece_two (by omega) (by omega) (by omega), hsum, hnat]
  · refine pieces_cons ?_
    have hsum : (v / 4096 % 16 * 64 + v / 64 % 64) * 64 + v % 64 = v := by omega
    show takePiece _ (_ :: _ :: rest) = _
    rw [takePiece_three (by omega) (by omega) (by omega) (by omega) (by omega), hsum, hnat]
  · refine pieces_cons ?_
    have hsum : ((v / 262144 % 8 * 64 + v / 4096 % 64) * 64 + v / 64 % 64) * 64 + v % 64 = v := by
      omega
    show takePiece _ (_ :: _ :: _ :: rest) = _
    rw [takePiece_four (by omega) (by omega) (by omega) (by omega) (by omega) (by omega), hsum, hnat]

/-- The pieces of a text's bytes are its characters. -/
theorem pieces_encode (text : String) : pieces (encode text) = text.toList.map Piece.char := by
  unfold encode
  induction text.toList with
  | nil => rw [List.flatMap_nil, pieces, List.map_nil]
  | cons c cs ih => rw [List.flatMap_cons, pieces_encodeChar, ih, List.map_cons]

/-- **Text that is encoded shows as it was.** -/
@[simp] theorem lossy_encode (text : String) : lossy (encode text) = text := by
  rw [lossy, pieces_encode, List.map_map]
  have hshown : Piece.shown ∘ Piece.char = id := rfl
  rw [hshown, List.map_id, String.ofList_toList]

theorem encode_injective : Function.Injective encode :=
  Function.LeftInverse.injective lossy_encode

theorem encode_append (s t : String) : encode (s ++ t) = encode s ++ encode t := by
  rw [encode, String.toList_append, List.flatMap_append]
  rfl

/-! ## Bytes of texts -/

/-- Bytes that encode a text. -/
def IsText (bytes : Bytes) : Prop := ∃ text, bytes = encode text

theorem IsText.append {front back : Bytes} (hfront : IsText front) (hback : IsText back) :
    IsText (front ++ back) := by
  obtain ⟨s, rfl⟩ := hfront
  obtain ⟨t, rfl⟩ := hback
  exact ⟨s ++ t, (encode_append s t).symm⟩

theorem isText_encodeChar (c : Char) : IsText (String.utf8EncodeChar c) := by
  refine ⟨String.singleton c, ?_⟩
  rw [encode, String.toList_singleton, List.flatMap_singleton]

/-- A byte below 0x80 is the whole of its character. -/
theorem encodeChar_ascii {c : Char} {b : UInt8} (hmem : b ∈ String.utf8EncodeChar c)
    (hb : b < 0x80) : String.utf8EncodeChar c = [b] := by
  rw [String.utf8EncodeChar] at hmem ⊢
  -- in a longer encoding every byte is at least 0x80
  have hlarge {n : ℕ} (hn : n < 256) (h : 0x80 ≤ n) : b ≠ UInt8.ofNat n := by
    rintro rfl
    exact absurd ((ofNat_lt_ascii hn).mp hb) (Nat.not_lt.mpr h)
  split_ifs at hmem ⊢ with h₁ h₂ h₃
  · rw [List.mem_singleton.mp hmem]
  all_goals
    refine absurd hmem ?_
    simp only [List.mem_cons, List.not_mem_nil, or_false, not_or]
    and_intros <;> exact hlarge (by omega) (by omega)

/-- What follows a byte below 0x80 in a text's bytes is a text. -/
theorem IsText.tail {b : UInt8} {rest : Bytes} (h : IsText (b :: rest)) (hb : b < 0x80) :
    IsText rest := by
  obtain ⟨text, htext⟩ := h
  unfold encode at htext
  rcases hchars : text.toList with _ | ⟨c, cs⟩ <;> rw [hchars] at htext
  · exact absurd htext (List.cons_ne_nil _ _)
  · obtain ⟨first, more, hfirst⟩ := List.exists_cons_of_ne_nil (String.utf8EncodeChar_ne_nil (c := c))
    rw [List.flatMap_cons, hfirst, List.cons_append, List.cons.injEq] at htext
    obtain ⟨rfl, hrest⟩ := htext
    -- the first character is that byte alone, so the others make up the rest
    have hone := encodeChar_ascii (hfirst ▸ List.mem_cons_self) hb
    rw [hfirst, List.cons.injEq] at hone
    refine ⟨String.ofList cs, ?_⟩
    rw [hrest, hone.2, List.nil_append, encode, String.toList_ofList]

end RunSweep.Utf8
