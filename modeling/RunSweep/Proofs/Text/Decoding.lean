import Mathlib.Tactic.SplitIfs
import RunSweep.Proofs.Text.Encoding

/-!
# Bytes as text

To read bytes as a text is to undo writing it, and nothing else can be read: `decode?` accepts exactly what
`encode` writes. No character has a second form, and no ill-formed stretch passes for a character.

For that, a character that `takePiece` cuts off is traced back to its bytes. The bounds on the first two
bytes say which form has been read, and the form has the bytes that `String.utf8EncodeChar` gives to the
character.
-/

namespace RunSweep.Utf8

/-! ## The bytes of a character -/

/-- A byte that is not the first of its character. -/
def IsTail (b : UInt8) : Prop :=
  0x80 ≤ b.toNat ∧ b.toNat ≤ 0xBF

theorem ofNat_eq {n : ℕ} {b : UInt8} (h : n = b.toNat) : UInt8.ofNat n = b := by
  rw [h, UInt8.ofNat_toNat]

theorem val_ofNat {v : ℕ} (h : v.isValidChar) : (Char.ofNat v).val.toNat = v := by
  rw [Char.ofNat, dif_pos h]
  rfl

theorem encodeChar_one {first : UInt8} (h : first.toNat < 0x80) :
    String.utf8EncodeChar (Char.ofNat first.toNat) = [first] := by
  rw [String.utf8EncodeChar, val_ofNat (.inl (by omega)), if_pos (by omega), UInt8.ofNat_toNat]

theorem encodeChar_two {first b : UInt8} {bits : ℕ} (hfirst : first.toNat = bits + 0xC0)
    (hlong : 2 ≤ bits) (hbits : bits < 0x20) (hb : IsTail b) :
    String.utf8EncodeChar (Char.ofNat (bits * 0x40 + b.toNat % 0x40)) = [first, b] := by
  obtain ⟨hb, hb'⟩ := hb
  rw [String.utf8EncodeChar, val_ofNat (.inl (by omega)), if_neg (by omega), if_pos (by omega)]
  rw [ofNat_eq (b := first) (by omega), ofNat_eq (b := b) (by omega)]

theorem encodeChar_three {first b c : UInt8} {bits : ℕ} (hfirst : first.toNat = bits + 0xE0)
    (hbits : bits < 0x10) (hb : IsTail b) (hc : IsTail c) (hlong : bits = 0 → 0xA0 ≤ b.toNat)
    (hsurrogate : bits = 13 → b.toNat ≤ 0x9F) :
    String.utf8EncodeChar (Char.ofNat ((bits * 0x40 + b.toNat % 0x40) * 0x40 + c.toNat % 0x40)) =
      [first, b, c] := by
  obtain ⟨hb, hb'⟩ := hb
  obtain ⟨hc, hc'⟩ := hc
  have hvalid : ((bits * 0x40 + b.toNat % 0x40) * 0x40 + c.toNat % 0x40).isValidChar := by
    unfold Nat.isValidChar
    omega
  rw [String.utf8EncodeChar, val_ofNat hvalid, if_neg (by omega), if_neg (by omega),
    if_pos (by omega)]
  rw [ofNat_eq (b := first) (by omega), ofNat_eq (b := b) (by omega), ofNat_eq (b := c) (by omega)]

theorem encodeChar_four {first b c d : UInt8} {bits : ℕ} (hfirst : first.toNat = bits + 0xF0)
    (hbits : bits < 5) (hb : IsTail b) (hc : IsTail c) (hd : IsTail d)
    (hlong : bits = 0 → 0x90 ≤ b.toNat) (hlarge : bits = 4 → b.toNat ≤ 0x8F) :
    String.utf8EncodeChar (Char.ofNat
        (((bits * 0x40 + b.toNat % 0x40) * 0x40 + c.toNat % 0x40) * 0x40 + d.toNat % 0x40)) =
      [first, b, c, d] := by
  obtain ⟨hb, hb'⟩ := hb
  obtain ⟨hc, hc'⟩ := hc
  obtain ⟨hd, hd'⟩ := hd
  rw [String.utf8EncodeChar, val_ofNat (.inr (by omega)), if_neg (by omega), if_neg (by omega),
    if_neg (by omega)]
  rw [ofNat_eq (b := first) (by omega), ofNat_eq (b := b) (by omega), ofNat_eq (b := c) (by omega),
    ofNat_eq (b := d) (by omega)]

/-! ## What has been read -/

/-- **The announced forms.** A first byte leaves room for one, two or three bytes behind it. The bounds on
the first of them keep out overlong forms, surrogates, and what is no code point. -/
theorem continuation?_eq_some {first : UInt8} {k : Continuation} (h : continuation? first = some k) :
    (k.further = 0 ∧ first.toNat = k.bits + 0xC0 ∧ 2 ≤ k.bits ∧ k.bits < 0x20 ∧
        k.lowest.toNat = 0x80 ∧ k.highest.toNat = 0xBF) ∨
      (k.further = 1 ∧ first.toNat = k.bits + 0xE0 ∧ k.bits < 0x10 ∧
        0x80 ≤ k.lowest.toNat ∧ k.highest.toNat ≤ 0xBF ∧
        (k.bits = 0 → 0xA0 ≤ k.lowest.toNat) ∧ (k.bits = 13 → k.highest.toNat ≤ 0x9F)) ∨
      (k.further = 2 ∧ first.toNat = k.bits + 0xF0 ∧ k.bits < 5 ∧
        0x80 ≤ k.lowest.toNat ∧ k.highest.toNat ≤ 0xBF ∧
        (k.bits = 0 → 0x90 ≤ k.lowest.toNat) ∧ (k.bits = 4 → k.highest.toNat ≤ 0x8F)) := by
  unfold continuation? at h
  simp only [UInt8.lt_iff_toNat_lt, ← UInt8.toNat_inj, UInt8.reduceToNat] at h
  split_ifs at h <;> cases h <;> grind

/-- A character's next byte stands within the bounds, and is a part of it. -/
theorem exists_of_takeTail {bits n : ℕ} {seen bytes back : Bytes} {lowest highest : UInt8} {c : Char}
    (h : takeTail bits seen lowest highest (n + 1) bytes = (.char c, back)) :
    ∃ b rest, bytes = b :: rest ∧ lowest.toNat ≤ b.toNat ∧ b.toNat ≤ highest.toNat ∧
      takeTail (bits * 0x40 + b.toNat % 0x40) (b :: seen) 0x80 0xBF n rest = (.char c, back) := by
  rcases bytes with _ | ⟨b, rest⟩
  · cases h
  · rw [takeTail] at h
    split_ifs at h with hb
    · exact ⟨b, rest, rfl, UInt8.le_iff_toNat_le.mp hb.1, UInt8.le_iff_toNat_le.mp hb.2, h⟩
    · cases h

/-- A byte behind the first two is bounded as such bytes are. -/
theorem exists_tail_of_takeTail {bits n : ℕ} {seen bytes back : Bytes} {c : Char}
    (h : takeTail bits seen 0x80 0xBF (n + 1) bytes = (.char c, back)) :
    ∃ b rest, bytes = b :: rest ∧ IsTail b ∧
      takeTail (bits * 0x40 + b.toNat % 0x40) (b :: seen) 0x80 0xBF n rest = (.char c, back) := by
  obtain ⟨b, rest, hbytes, hlow, hhigh, h⟩ := exists_of_takeTail h
  exact ⟨b, rest, hbytes, ⟨hlow, hhigh⟩, h⟩

/-- **A character that is cut off has just its own bytes.** -/
theorem eq_of_takePiece {first : UInt8} {rest back : Bytes} {c : Char}
    (h : takePiece first rest = (.char c, back)) :
    first :: rest = String.utf8EncodeChar c ++ back := by
  rw [takePiece] at h
  split_ifs at h with hascii
  · cases h
    rw [encodeChar_one (UInt8.lt_iff_toNat_lt.mp hascii)]
    rfl
  · cases hk : continuation? first with
    | none => simp [hk] at h
    | some k =>
        rw [hk] at h
        dsimp only at h
        obtain ⟨b, rest, rfl, hlow, hhigh, h⟩ := exists_of_takeTail h
        -- as many bytes behind the first as it has announced
        rcases continuation?_eq_some hk with ⟨hn, hfirst, hform⟩ | ⟨hn, hfirst, hform⟩ |
          ⟨hn, hfirst, hform⟩ <;> rw [hn] at h
        · cases h
          rw [encodeChar_two hfirst (by omega) (by omega) ⟨by omega, by omega⟩]
          rfl
        · obtain ⟨b', rest, rfl, hb', h⟩ := exists_tail_of_takeTail h
          cases h
          rw [encodeChar_three hfirst (by omega) ⟨by omega, by omega⟩ hb' (by omega) (by omega)]
          rfl
        · obtain ⟨b', rest, rfl, hb', h⟩ := exists_tail_of_takeTail h
          obtain ⟨b'', rest, rfl, hb'', h⟩ := exists_tail_of_takeTail h
          cases h
          rw [encodeChar_four hfirst (by omega) ⟨by omega, by omega⟩ hb' hb'' (by omega) (by omega)]
          rfl

/-- Bytes that are all characters are the bytes of these. -/
theorem eq_of_pieces {bytes : Bytes} {cs : List Char} (h : pieces bytes = cs.map Piece.char) :
    bytes = cs.flatMap String.utf8EncodeChar := by
  induction cs generalizing bytes with
  | nil =>
      rcases bytes with _ | ⟨first, rest⟩
      · rfl
      · rw [pieces] at h
        cases h
  | cons c cs ih =>
      rcases bytes with _ | ⟨first, rest⟩
      · rw [pieces] at h
        cases h
      · rw [pieces, List.map_cons, List.cons.injEq] at h
        rw [List.flatMap_cons, ← ih h.2]
        exact eq_of_takePiece (Prod.ext h.1 rfl)

/-! ## Reading a text -/

theorem mapM_char?_eq_some_iff {found : List Piece} {cs : List Char} :
    found.mapM Piece.char? = some cs ↔ found = cs.map Piece.char := by
  induction found generalizing cs with
  | nil => cases cs <;> simp
  | cons piece found ih =>
      cases hmore : found.mapM Piece.char? <;> cases piece <;> cases cs <;>
        simp [List.mapM_cons, Piece.char?, hmore, ← ih]

/-- **Bytes are read as a text exactly if they are what is written for it.** -/
theorem decode?_eq_some_iff {bytes : Bytes} {text : String} :
    decode? bytes = some text ↔ bytes = encode text := by
  constructor
  · intro h
    obtain ⟨cs, hcs, rfl⟩ := Option.map_eq_some_iff.mp h
    rw [encode, String.toList_ofList]
    exact eq_of_pieces (mapM_char?_eq_some_iff.mp hcs)
  · rintro rfl
    rw [decode?, mapM_char?_eq_some_iff.mpr (pieces_encode text), Option.map_some,
      String.ofList_toList]

/-- The bytes of a text are read as the text. -/
@[simp] theorem decode?_encode (text : String) : decode? (encode text) = some text :=
  decode?_eq_some_iff.mpr rfl

/-- Bytes that no text has are not read at all. -/
theorem decode?_eq_none_iff {bytes : Bytes} : decode? bytes = none ↔ ¬ IsText bytes := by
  simp [Option.eq_none_iff_forall_ne_some, decode?_eq_some_iff, IsText]

end RunSweep.Utf8
