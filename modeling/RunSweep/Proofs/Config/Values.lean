import RunSweep.Config.Decoding
import RunSweep.Proofs.Decimal.Integers

/-!
# What values write

A value of a document is of a kind: a text, a number, a count and so on. Each kind has a predicate for
being well-formed, with its bounds, and a relation to what is written. Neither looks at how a value is read.
`Reads` ties both to the function that reads it: a well-formed value is read, as the only thing that it
writes.
-/

namespace RunSweep

open Binary64 (IsNearest)

namespace Toml

/-! ## Kinds of values -/

/-- A text. -/
def IsText (v : Value) : Prop := ∃ text, v = .string text

/-- A number: a float, or an integer of 64 bits with or without a sign. -/
def IsNumber (v : Value) : Prop :=
  (∃ x, v = .float x) ∨ ∃ n : ℤ, v = .integer n ∧ -2 ^ 63 ≤ n ∧ n < 2 ^ 64

/-- An integer of 64 bits without a sign. -/
def IsCount (v : Value) : Prop := ∃ n : ℤ, v = .integer n ∧ 0 ≤ n ∧ n < 2 ^ 64

/-- An integer of 64 bits with a sign. -/
def IsSigned (v : Value) : Prop := ∃ n : ℤ, v = .integer n ∧ -2 ^ 63 ≤ n ∧ n < 2 ^ 63

/-- A boolean. -/
def IsBool (v : Value) : Prop := ∃ b, v = .boolean b

/-- A list of texts. -/
def IsTexts (v : Value) : Prop := ∃ ofTables, ∃ texts : List String, v = .array ofTables (texts.map .string)

/-! ## What they write -/

/-- A text is written as it is. -/
def WritesText (v : Value) (text : String) : Prop := v = .string text

/-- So is a count. -/
def WritesCount (v : Value) (n : UInt64) : Prop := v = .integer n.toNat

/-- So is an integer with a sign. -/
def WritesSigned (v : Value) (n : Int64) : Prop := v = .integer n.toInt

/-- So is a boolean. -/
def WritesBool (v : Value) (b : Bool) : Prop := v = .boolean b

/-- A path is written as a text. -/
def WritesPath (v : Value) (path : Path) : Prop := ∃ text, v = .string text ∧ path = .ofText text

/-- A float is written as it is, or as the integer that it is nearest to. -/
def WritesNumber (v : Value) (x : Float) : Prop := v = .float x ∨ ∃ n, v = .integer n ∧ IsNearest n x

/-- A list of texts is written item by item. -/
def WritesTexts (v : Value) (texts : List String) : Prop :=
  ∃ ofTables, v = .array ofTables (texts.map .string)

/-- A policy's keyword as such, or as the only key of a table with nothing behind it. -/
def WritesPolicy (v : Value) (policy : LaunchPolicy) : Prop :=
  v = .string policy.keyword ∨
    ∃ origin payload, v = .table origin [(policy.keyword, payload)] ∧
      ((∃ origin, payload = .table origin []) ∨ ∃ ofTables, payload = .array ofTables [])

/-- A policy. -/
def IsPolicy (v : Value) : Prop := ∃ policy, WritesPolicy v policy

/-- What may be left open has a value if it is written at all. -/
def WritesSome {α : Type} (writes : Value → α → Prop) (v : Value) (x? : Option α) : Prop :=
  ∃ x, x? = some x ∧ writes v x

/-! ## Integers and keywords -/

theorem asInteger_eq_ok {n : ℤ} (hlow : -2 ^ 63 ≤ n) (hhigh : n < 2 ^ 64) :
    Value.asInteger n = .ok n := by
  have hmin : Int64.minValue.toInt ≤ n := hlow
  have hsize : n < UInt64.size := hhigh
  rw [Value.asInteger, decide_eq_true hmin, decide_eq_true hsize]
  rfl

/-- An integer becomes the float nearest to it. -/
theorem exists_asFloat {n : ℤ} (hlow : -2 ^ 63 ≤ n) (hhigh : n < 2 ^ 64) :
    ∃ x, Value.asFloat (.integer n) = .ok x ∧ IsNearest n x := by
  have hread : Value.asFloat (.integer n) = .ok (if n < 0
      then -(UInt64.ofNat n.natAbs).toFloat else (UInt64.ofNat n.natAbs).toFloat) := by
    rw [Value.asFloat, asInteger_eq_ok hlow hhigh]
    rfl
  have hsize : (UInt64.ofNat n.natAbs).toNat = n.natAbs :=
    UInt64.toNat_ofNat_of_lt' (show n.natAbs < 2 ^ 64 by omega)
  refine ⟨_, hread, ?_⟩
  generalize UInt64.ofNat n.natAbs = size at hsize
  by_cases hsign : n < 0
  · obtain rfl : n = -size.toNat := by omega
    rw [if_pos hsign]
    exact Binary64.isNearest_neg_toFloat (by omega)
  · obtain rfl : n = size.toNat := by omega
    rw [if_neg hsign]
    exact Binary64.isNearest_toFloat size

theorem policyNamed_keyword (policy : LaunchPolicy) :
    Value.policyNamed policy.keyword = .ok policy := by
  cases policy <;> rfl

theorem keyword_injective : Function.Injective LaunchPolicy.keyword := by
  intro policy policy' h
  have h := (policyNamed_keyword policy).symm.trans (h ▸ policyNamed_keyword policy')
  exact Except.ok.inj h

/-! ## Reading -/

/-- A result that is the one thing with a property. -/
def Yields {α : Type} (result : Except Mismatch α) (p : α → Prop) : Prop :=
  ∃ x, result = .ok x ∧ ∀ y, p y ↔ y = x

/-- **A value is read as it is written**: what is well-formed is read, as the one thing that it writes. -/
def Reads {α : Type} (wellFormed : Value → Prop) (writes : Value → α → Prop)
    (convert : Value → Except Mismatch α) : Prop :=
  ∀ v, wellFormed v → Yields (convert v) (writes v)

namespace Reads

theorem path : Reads IsText WritesPath Value.asPath := by
  rintro _ ⟨text, rfl⟩
  exact ⟨.ofText text, rfl, fun y => by simp [WritesPath]⟩

theorem text : Reads IsText WritesText Value.asText := by
  rintro _ ⟨text, rfl⟩
  exact ⟨text, rfl, fun y => by simp [WritesText, eq_comm]⟩

theorem bool : Reads IsBool WritesBool Value.asBool := by
  rintro _ ⟨b, rfl⟩
  exact ⟨b, rfl, fun y => by simp [WritesBool, eq_comm]⟩

theorem some {α : Type} {wellFormed : Value → Prop} {writes : Value → α → Prop}
    {convert : Value → Except Mismatch α} (h : Reads wellFormed writes convert) :
    Reads wellFormed (WritesSome writes) (some? convert) := by
  intro v hv
  obtain ⟨x, hx, hunique⟩ := h v hv
  refine ⟨.some x, by rw [some?, hx]; rfl, fun y? => ?_⟩
  simp [WritesSome, hunique]

theorem texts : Reads IsTexts WritesTexts Value.asTexts := by
  rintro _ ⟨ofTables, texts, rfl⟩
  have hitems : (texts.map Value.string).mapM Value.asText = .ok texts := by
    induction texts with
    | nil => rfl
    | cons text texts ih => rw [List.map_cons, List.mapM_cons, ih]; rfl
  have hinj : Function.Injective Value.string := fun _ _ h => by cases h; rfl
  refine ⟨texts, hitems, fun y => ?_⟩
  simp [WritesTexts, eq_comm, hinj.list_map.eq_iff]

theorem count : Reads IsCount WritesCount Value.asCount := by
  rintro _ ⟨n, rfl, hlow, hhigh⟩
  have hread : Value.asCount (.integer n) = if n < 0
      then .error (.value (Value.integer n).describe "u64") else .ok (.ofNat n.toNat) := by
    rw [Value.asCount, asInteger_eq_ok (by omega) hhigh]
    rfl
  have hnat : (UInt64.ofNat n.toNat).toNat = n.toNat :=
    UInt64.toNat_ofNat_of_lt' (show n.toNat < 2 ^ 64 by omega)
  refine ⟨.ofNat n.toNat, by rw [hread, if_neg (by omega)], fun y => ?_⟩
  rw [WritesCount, ← UInt64.toNat_inj, hnat, Value.integer.injEq]
  omega

theorem signed : Reads IsSigned WritesSigned Value.asSigned := by
  rintro _ ⟨n, rfl, hlow, hhigh⟩
  have hread : Value.asSigned (.integer n) = if Int64.maxValue.toInt < n
      then .error (.value (Value.integer n).describe "i64") else .ok (.ofInt n) := by
    rw [Value.asSigned, asInteger_eq_ok hlow (by omega)]
    rfl
  have hmax : Int64.maxValue.toInt = 2 ^ 63 - 1 := rfl
  have hint : (Int64.ofInt n).toInt = n := Int64.toInt_ofInt_of_le hlow hhigh
  refine ⟨.ofInt n, by rw [hread, if_neg (by omega)], fun y => ?_⟩
  rw [WritesSigned, ← Int64.toInt_inj, hint, Value.integer.injEq, eq_comm]

theorem number : Reads IsNumber WritesNumber Value.asFloat := by
  rintro _ (⟨x, rfl⟩ | ⟨n, rfl, hlow, hhigh⟩)
  · exact ⟨x, rfl, fun y => by simp [WritesNumber, eq_comm]⟩
  · obtain ⟨x, hx, hnearest⟩ := exists_asFloat hlow hhigh
    refine ⟨x, hx, fun y => ⟨?_, ?_⟩⟩
    · rintro (h | ⟨_, h, hy⟩)
      · cases h
      · cases h
        exact hy.unique hnearest
    · rintro rfl
      exact .inr ⟨n, rfl, hnearest⟩

theorem policy : Reads IsPolicy WritesPolicy Value.asPolicy := by
  rintro v ⟨policy, hwrites⟩
  refine ⟨policy, ?_, fun other => ⟨fun hother => ?_, fun h => h ▸ hwrites⟩⟩
  · rcases hwrites with rfl | ⟨origin, payload, rfl, ⟨_, rfl⟩ | ⟨_, rfl⟩⟩
    · exact policyNamed_keyword policy
    · simp only [Value.asPolicy, policyNamed_keyword]
      rfl
    · simp only [Value.asPolicy, policyNamed_keyword]
      rfl
  · apply keyword_injective
    rcases hwrites with rfl | ⟨_, _, rfl, -⟩ <;> rcases hother with h | ⟨_, _, h, -⟩
    · exact (Value.string.inj h).symm
    · cases h
    · cases h
    · exact (congrArg Prod.fst (List.cons.inj (Value.table.inj h).2).1).symm

end Reads

end Toml

end RunSweep
