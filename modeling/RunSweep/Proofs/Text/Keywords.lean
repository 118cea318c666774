import Mathlib
import RunSweep.LogLevel
import RunSweep.Policy
import RunSweep.Proofs.Text.Decoding

/-!
# Keywords

A keyword is recognised by its letters, each in upper or lower case, with blanks around them: `Spells` is
this grammar. What is done to recognise one is something else. The text is trimmed, put in lower case by
the rules of Unicode, and compared.

The two agree because lower case hardly ever leads into ASCII. A character beyond ASCII becomes one beyond
ASCII, or at least is joined by one. The exception is the Kelvin sign, whose lower case is a `k`, and a
keyword has no `k`.

The lemmas about upper and lower case within ASCII (`Char.toLower_eq_of_isUpper` and the like) come with the
whole of Mathlib only.
-/

namespace RunSweep

open LetterCase

/-! ## Lower case -/

/-- A small letter that is the lower case of nothing but ASCII letters. -/
def IsPlain (k : Char) : Prop :=
  k.isLower = true ∧ k ≠ 'k'

instance : DecidablePred IsPlain := fun _ => inferInstanceAs (Decidable (_ ∧ _))

theorem isLower_iff {c : Char} : c.isLower = true ↔ 97 ≤ c.toNat ∧ c.toNat ≤ 122 := by
  simp [Char.isLower, UInt32.le_iff_toNat_le, ← Char.toNat_val]

theorem isUpper_iff {c : Char} : c.isUpper = true ↔ 'A' ≤ c ∧ c ≤ 'Z' := by
  simp [Char.isUpper, Char.le_def]

/-- Within ASCII, lower case is that of the letters. -/
theorem lowerChar_ascii {c : Char} (h : c.toNat < 0x80) : lowerChar c = [c.toLower] := by
  rw [lowerChar, if_pos h]
  by_cases hupper : 'A' ≤ c ∧ c ≤ 'Z'
  · rw [if_pos hupper, Char.toLower_eq_of_isUpper (isUpper_iff.mpr hupper)]
  · rw [if_neg hupper, Char.toLower_eq_of_not_isUpper (isUpper_iff.not.mpr hupper)]

theorem toLower_eq_iff {c k : Char} (hk : k.isLower = true) :
    c.toLower = k ↔ c = k ∨ c = k.toUpper := by
  have hlower : k.toLower = k := Char.toLower_eq_of_not_isUpper (Char.not_isUpper_of_isLower hk)
  constructor
  · rintro rfl
    by_cases hc : c.isUpper = true
    · right
      rw [Char.toUpper_toLower_eq_toUpper, Char.toUpper_eq_of_not_isLower (Char.not_isLower_of_isUpper hc)]
    · exact .inl (Char.toLower_eq_of_not_isUpper hc).symm
  · rintro (rfl | rfl)
    · exact hlower
    · rw [Char.toLower_toUpper_eq_toLower, hlower]

/-- Every run but one leads to characters beyond the small letters. -/
theorem lowerRuns_beyond : ∀ run ∈ lowerRuns,
    123 ≤ (run.1 + run.2.2.2 : ℤ) ∨ run = (0x212A, 0x212A, 1, -8383) := by
  decide +kernel

theorem not_isPlain_ofNat {n : ℕ} (h : 123 ≤ n) : ¬ IsPlain (Char.ofNat n) := by
  intro hplain
  obtain ⟨hlow, hhigh⟩ := isLower_iff.mp hplain.1
  rw [Char.toNat_ofNat] at hlow hhigh
  split_ifs at hlow hhigh <;> omega

/-- **Beyond ASCII, lower case is no plain letter**, or not that alone. -/
theorem exists_not_isPlain {c : Char} (h : 0x80 ≤ c.toNat) : ∃ d ∈ lowerChar c, ¬ IsPlain d := by
  rw [lowerChar, if_neg (Nat.not_lt.mpr h)]
  split_ifs with hdotted
  -- the dot that is above
  · exact ⟨Char.ofNat 0x307, by simp, not_isPlain_ofNat (by decide)⟩
  split
  next first last step offset hfind =>
    refine ⟨_, List.mem_singleton_self _, ?_⟩
    have hrange := List.find?_some hfind
    simp only [Bool.and_eq_true, decide_eq_true_eq] at hrange
    rcases lowerRuns_beyond _ (List.mem_of_find?_eq_some hfind) with hbeyond | hkelvin
    · exact not_isPlain_ofNat (by simp only at hbeyond; omega)
    · cases hkelvin
      have hc : c.toNat = 0x212A := by omega
      rw [hc]
      decide
  next =>
    refine ⟨c, List.mem_singleton_self _, fun hplain => ?_⟩
    have := (isLower_iff.mp hplain.1).2
    omega

theorem not_isPlain_lowerSigma (before after : List Char) : ¬ IsPlain (lowerSigma before after) := by
  unfold lowerSigma
  split_ifs <;> exact not_isPlain_ofNat (by decide)

/-! ## Letters of a keyword -/

/-- Letters, each in upper or lower case. -/
def SpellsOut (word keyword : List Char) : Prop :=
  List.Forall₂ (fun c k => c = k ∨ c = k.toUpper) word keyword

/-- A letter of a keyword stands within ASCII, and is not blank. -/
theorem letter_of_case {c k : Char} (hk : IsPlain k) (h : c = k ∨ c = k.toUpper) :
    c.toNat < 0x80 ∧ isBlank c = false := by
  have halpha : c.isAlpha = true := by
    rcases h with rfl | rfl <;> simp [Char.isAlpha, hk.1]
  have hrange : 65 ≤ c.toNat ∧ c.toNat ≤ 90 ∨ 97 ≤ c.toNat ∧ c.toNat ≤ 122 := by
    simpa [Char.isAlpha, Char.isUpper, Char.isLower, UInt32.le_iff_toNat_le, ← Char.toNat_val]
      using halpha
  refine ⟨by omega, ?_⟩
  simp [isBlank]
  omega

theorem letter_of_mem {word keyword : List Char} (hplain : ∀ k ∈ keyword, IsPlain k)
    (h : SpellsOut word keyword) {c : Char} (hc : c ∈ word) :
    c.toNat < 0x80 ∧ isBlank c = false := by
  induction h with
  | nil => cases hc
  | cons hcase _ ih =>
      obtain ⟨hk, hkeyword⟩ := List.forall_mem_cons.mp hplain
      rcases List.mem_cons.mp hc with rfl | hc
      · exact letter_of_case hk hcase
      · exact ih hkeyword hc

/-- **In lower case, a word is a keyword exactly if it has its letters.** -/
theorem lowerChars_eq_iff {keyword : List Char} (hplain : ∀ k ∈ keyword, IsPlain k)
    (before word : List Char) : lowerChars before word = keyword ↔ SpellsOut word keyword := by
  induction word generalizing before keyword with
  | nil =>
      rw [lowerChars, SpellsOut, List.forall₂_nil_left_iff]
      exact eq_comm
  | cons c word ih =>
      rw [lowerChars]
      by_cases hascii : c.toNat < 0x80
      · rw [if_neg (by omega), lowerChar_ascii hascii, List.singleton_append]
        cases keyword with
        | nil => simp [SpellsOut]
        | cons k keyword =>
            obtain ⟨hk, hkeyword⟩ := List.forall_mem_cons.mp hplain
            rw [List.cons.injEq, toLower_eq_iff hk.1, ih hkeyword, SpellsOut, SpellsOut,
              List.forall₂_cons]
      -- neither has such a character in a keyword
      · refine iff_of_false (fun heq => ?_) (fun h => hascii (letter_of_mem hplain h List.mem_cons_self).1)
        have hforeign : ∃ d ∈ keyword, ¬ IsPlain d := by
          rw [← heq]
          split_ifs
          · exact ⟨_, List.mem_append_left _ (List.mem_singleton_self _), not_isPlain_lowerSigma _ _⟩
          · obtain ⟨d, hd, hnot⟩ := exists_not_isPlain (Nat.not_lt.mp hascii)
            exact ⟨d, List.mem_append_left _ hd, hnot⟩
        obtain ⟨d, hd, hnot⟩ := hforeign
        exact hnot (hplain d hd)

/-! ## Blanks around -/

theorem exists_trimBlank (cs : List Char) : ∃ front back, cs = front ++ trimBlank cs ++ back ∧
    (∀ c ∈ front, isBlank c = true) ∧ ∀ c ∈ back, isBlank c = true := by
  have hback : cs.dropWhile isBlank =
      trimBlank cs ++ ((cs.dropWhile isBlank).reverse.takeWhile isBlank).reverse := by
    rw [trimBlank, ← List.reverse_append, List.takeWhile_append_dropWhile, List.reverse_reverse]
  refine ⟨cs.takeWhile isBlank, ((cs.dropWhile isBlank).reverse.takeWhile isBlank).reverse, ?_,
    fun _ => List.mem_takeWhile_imp, fun c hc => List.mem_takeWhile_imp (List.mem_reverse.mp hc)⟩
  rw [List.append_assoc, ← hback, List.takeWhile_append_dropWhile]

theorem dropWhile_isBlank {word : List Char} (hword : ∀ c ∈ word, isBlank c = false) :
    word.dropWhile isBlank = word := by
  cases word with
  | nil => rfl
  | cons c word => exact List.dropWhile_cons_of_neg (by simp [hword c List.mem_cons_self])

theorem trimBlank_append {front word back : List Char} (hfront : ∀ c ∈ front, isBlank c = true)
    (hback : ∀ c ∈ back, isBlank c = true) (hword : ∀ c ∈ word, isBlank c = false) :
    trimBlank (front ++ word ++ back) = word := by
  rw [trimBlank, List.append_assoc, List.dropWhile_append_of_pos hfront]
  rcases word with _ | ⟨c, word⟩
  · rw [List.nil_append, List.dropWhile_eq_nil_iff.mpr hback]
    rfl
  · have hc : isBlank c = false := hword c List.mem_cons_self
    rw [List.cons_append, List.dropWhile_cons_of_neg (by simp [hc]), ← List.cons_append,
      List.reverse_append, List.dropWhile_append_of_pos (by simpa using hback),
      dropWhile_isBlank fun d hd => hword d (List.mem_reverse.mp hd), List.reverse_reverse]

/-- **A text that spells a keyword**: blanks, the letters of the keyword, each in upper or lower case,
and blanks again. -/
def Spells (text keyword : String) : Prop :=
  ∃ front word back, text.toList = front ++ word ++ back ∧
    (∀ c ∈ front, isBlank c = true) ∧ (∀ c ∈ back, isBlank c = true) ∧
      SpellsOut word keyword.toList

/-- **A text is taken for a keyword exactly if it spells it.** -/
theorem lowercase_trim_eq_iff {keyword : String} (hplain : ∀ k ∈ keyword.toList, IsPlain k)
    (text : String) : lowercase (trim text) = keyword ↔ Spells text keyword := by
  have hlower : lowercase (trim text) = keyword ↔
      SpellsOut (trimBlank text.toList) keyword.toList := by
    rw [← lowerChars_eq_iff hplain [], ← String.toList_inj, lowercase, trim, String.toList_ofList,
      String.toList_ofList]
  rw [hlower]
  constructor
  · intro h
    obtain ⟨front, back, htext, hfront, hback⟩ := exists_trimBlank text.toList
    exact ⟨front, _, back, htext, hfront, hback, h⟩
  · rintro ⟨front, word, back, htext, hfront, hback, h⟩
    rw [htext, trimBlank_append hfront hback fun c hc => (letter_of_mem hplain h hc).2]
    exact h

/-- What spells a keyword has no character beyond ASCII but blanks. -/
theorem Spells.ascii {text keyword : String} (h : Spells text keyword)
    (hplain : ∀ k ∈ keyword.toList, IsPlain k) {c : Char} (hc : c ∈ text.toList) :
    c.toNat < 0x80 ∨ isBlank c = true := by
  obtain ⟨front, word, back, htext, hfront, hback, hword⟩ := h
  rw [htext, List.mem_append, List.mem_append] at hc
  rcases hc with (hc | hc) | hc
  · exact .inr (hfront c hc)
  · exact .inl (letter_of_mem hplain hword hc).1
  · exact .inr (hback c hc)

/-! ## Policies and levels -/

namespace LaunchPolicy

theorem isPlain_keyword (policy : LaunchPolicy) : ∀ k ∈ policy.keyword.toList, IsPlain k := by
  cases policy <;> simp [keyword, IsPlain]

/-- **A text is read as a policy exactly if it spells its keyword.** -/
theorem read_eq_ok_iff (text : String) (policy : LaunchPolicy) :
    read text = .ok policy ↔ Spells text policy.keyword := by
  rw [← lowercase_trim_eq_iff policy.isPlain_keyword text, read]
  split_ifs with habort hcontinue
  · rw [habort]
    cases policy <;> simp [keyword]
  · rw [hcontinue]
    cases policy <;> simp [keyword]
  · cases policy <;> simp [keyword, habort, hcontinue]

/-- Any other text is refused. -/
theorem read_eq_error_iff (text : String) :
    (∃ refusal, read text = .error refusal) ↔ ∀ policy : LaunchPolicy, ¬ Spells text policy.keyword := by
  simp only [← read_eq_ok_iff]
  cases read text <;> simp

end LaunchPolicy

namespace LogLevel

theorem isPlain_name (level : LogLevel) : ∀ k ∈ level.name.toList, IsPlain k := by
  cases level <;> simp [name, IsPlain]

theorem ofName?_eq_some_iff (word : String) (level : LogLevel) :
    ofName? word = some level ↔ word = level.name := by
  constructor
  · intro h
    have hname := List.find?_some (p := fun other : LogLevel => other.name == word) h
    exact (beq_iff_eq.mp hname).symm
  · rintro rfl
    cases level <;> decide

/-- **A setting names a level exactly if it spells its name**, or else `warning`. -/
theorem ofSetting?_eq_some_iff (text : String) (level : LogLevel) :
    ofSetting? text = some level ↔
      Spells text level.name ∨ level = .warn ∧ Spells text "warning" := by
  have hplain : ∀ k ∈ "warning".toList, IsPlain k := by simp [IsPlain]
  rw [← lowercase_trim_eq_iff level.isPlain_name text, ← lowercase_trim_eq_iff hplain text,
    ofSetting?]
  split_ifs with hwarning
  · rw [hwarning]
    cases level <;> simp [name]
  · rw [ofName?_eq_some_iff]
    simp [hwarning]

theorem resolve_setting (text : String) :
    resolve none (some (Utf8.encode text)) = (ofSetting? text).getD info := by
  simp [resolve]

/-- What a setting has to spell to name a level. -/
theorem keyword_of_ofSetting? {text : String} {level : LogLevel} (h : ofSetting? text = some level) :
    ∃ keyword, Spells text keyword ∧ ∀ k ∈ keyword.toList, IsPlain k := by
  rcases (ofSetting?_eq_some_iff text level).mp h with hspells | ⟨-, hspells⟩
  · exact ⟨_, hspells, level.isPlain_name⟩
  · exact ⟨_, hspells, by simp [IsPlain]⟩

/-- A level other than the usual one is in force exactly if the setting names it. -/
theorem resolve_eq_iff (text : String) {level : LogLevel} (hlevel : level ≠ info) :
    resolve none (some (Utf8.encode text)) = level ↔
      Spells text level.name ∨ level = .warn ∧ Spells text "warning" := by
  rw [← ofSetting?_eq_some_iff, resolve_setting]
  cases ofSetting? text <;> simp [hlevel.symm]

end LogLevel

/-- **What becomes of a text where a keyword is expected**, as a policy and as the setting of the level. -/
structure ReadsKeywords (text : String) : Prop where
  abort : LaunchPolicy.read text = .ok .abort ↔ Spells text "abort"
  carryOn : LaunchPolicy.read text = .ok .carryOn ↔ Spells text "continue"
  refused : (∃ refusal, LaunchPolicy.read text = .error refusal) ↔
    ¬ Spells text "abort" ∧ ¬ Spells text "continue"
  error : LogLevel.resolve none (some (Utf8.encode text)) = .error ↔ Spells text "error"
  warn : LogLevel.resolve none (some (Utf8.encode text)) = .warn ↔
    Spells text "warn" ∨ Spells text "warning"
  debug : LogLevel.resolve none (some (Utf8.encode text)) = .debug ↔ Spells text "debug"
  trace : LogLevel.resolve none (some (Utf8.encode text)) = .trace ↔ Spells text "trace"
  /-- A setting that is passed over leaves the usual level. -/
  info : LogLevel.resolve none (some (Utf8.encode text)) = .info ↔
    ∀ keyword ∈ ["error", "warn", "warning", "debug", "trace"], ¬ Spells text keyword
  /-- A character beyond ASCII that is not blank makes the text no keyword at all. -/
  foreign : ∀ c ∈ text.toList, 0x80 ≤ c.toNat → isBlank c = false →
    (∃ refusal, LaunchPolicy.read text = .error refusal) ∧ LogLevel.ofSetting? text = none

/-- **Keywords are recognised exactly**: by their letters, and by nothing that Unicode makes equal to
them. -/
theorem keywords_recognised_exactly (text : String) : ReadsKeywords text := by
  have hlevel (level : LogLevel) (h : level ≠ .info) := LogLevel.resolve_eq_iff text h
  have herror := hlevel .error nofun
  have hwarn := hlevel .warn nofun
  have hdebug := hlevel .debug nofun
  have htrace := hlevel .trace nofun
  simp only [reduceCtorEq, false_and, true_and, or_false, LogLevel.name] at herror hwarn hdebug htrace
  constructor
  case abort => exact LaunchPolicy.read_eq_ok_iff text .abort
  case carryOn => exact LaunchPolicy.read_eq_ok_iff text .carryOn
  case refused =>
    rw [LaunchPolicy.read_eq_error_iff]
    exact ⟨fun h => ⟨h .abort, h .carryOn⟩, fun h policy => by cases policy; exacts [h.1, h.2]⟩
  case error => exact herror
  case warn => exact hwarn
  case debug => exact hdebug
  case trace => exact htrace
  case info =>
    constructor
    · intro h keyword hkeyword hspells
      simp only [List.mem_cons, List.not_mem_nil, or_false] at hkeyword
      rcases hkeyword with rfl | rfl | rfl | rfl | rfl
      · exact nomatch h.symm.trans (herror.mpr hspells)
      · exact nomatch h.symm.trans (hwarn.mpr (.inl hspells))
      · exact nomatch h.symm.trans (hwarn.mpr (.inr hspells))
      · exact nomatch h.symm.trans (hdebug.mpr hspells)
      · exact nomatch h.symm.trans (htrace.mpr hspells)
    · intro h
      -- any other level would have been spelled
      cases heq : LogLevel.resolve none (some (Utf8.encode text)) with
      | info => rfl
      | error => exact absurd (herror.mp heq) (h _ (by simp))
      | warn => exact ((hwarn.mp heq).elim (h _ (by simp)) (h _ (by simp))).elim
      | debug => exact absurd (hdebug.mp heq) (h _ (by simp))
      | trace => exact absurd (htrace.mp heq) (h _ (by simp))
  case foreign =>
    intro c hc hbeyond hnot
    -- a keyword would have no such character
    have hnone {keyword : String} (hplain : ∀ k ∈ keyword.toList, IsPlain k) :
        ¬ Spells text keyword := by
      intro hspells
      rcases hspells.ascii hplain hc with hascii | hblank
      · omega
      · rw [hnot] at hblank
        cases hblank
    constructor
    · exact (LaunchPolicy.read_eq_error_iff text).mpr fun policy => hnone policy.isPlain_keyword
    · refine Option.eq_none_iff_forall_ne_some.mpr fun level h => ?_
      obtain ⟨keyword, hspells, hplain⟩ := LogLevel.keyword_of_ofSetting? h
      exact hnone hplain hspells

-- the dotted capital is put in lower case as an `i` with a dot above it
example : LogLevel.ofSetting? "\u2003WarNing " = some .warn ∧ LogLevel.ofSetting? "WARN\u0130NG" = none := by
  decide

end RunSweep
