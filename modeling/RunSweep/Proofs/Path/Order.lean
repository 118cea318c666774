import Mathlib.Data.List.Lex
import RunSweep.Proofs.Path.Names

/-!
# The order of paths

Paths are put in order by the keys of their steps, and lists of keys are ordered as texts are: the first
difference decides. So the order is total, sorting by it works, and two names of one directory stand in
the order of their bytes.
-/

namespace RunSweep

namespace Path

/-- What a path is put in order by: a key for each of its steps. -/
def sortKeys (p : Path) : List (List ℕ) :=
  p.components.map Component.sortKey

theorem precedes_iff {p q : Path} : p.precedes q = true ↔ p.sortKeys ≤ q.sortKeys := by
  have hlt (a b : List (List ℕ)) :
      List.lex a b (fun x y => List.lex x y (· < ·)) = true ↔ a < b := by
    rw [List.lex_eq_true_iff_lex]
    simp only [List.lex_eq_true_iff_lt]
    rfl
  rw [← not_lt, ← hlt, Bool.not_eq_true, ← Bool.not_eq_true']
  rfl

theorem precedes_trans (p q r : Path) (h : p.precedes q = true) (h' : q.precedes r = true) :
    p.precedes r = true :=
  precedes_iff.mpr ((precedes_iff.mp h).trans (precedes_iff.mp h'))

theorem precedes_total (p q : Path) : (p.precedes q || q.precedes p) = true := by
  rw [Bool.or_eq_true, precedes_iff, precedes_iff]
  exact le_total _ _

/-! ## The names of a directory -/

/-- Bytes are compared as their numbers are. -/
theorem map_toNat_lt {a b : Bytes} : a.map UInt8.toNat < b.map UInt8.toNat ↔ a < b := by
  induction a generalizing b with
  | nil => cases b <;> simp
  | cons x a ih =>
      cases b with
      | nil => simp
      | cons y b =>
          rw [List.map_cons, List.map_cons, List.cons_lt_cons_iff, List.cons_lt_cons_iff, ih,
            UInt8.toNat_inj, UInt8.lt_iff_toNat_lt]

theorem sortKey_name_lt {a b : Bytes} :
    (Component.name a).sortKey < (Component.name b).sortKey ↔ a < b := by
  rw [Component.sortKey, Component.sortKey, List.cons_lt_cons_iff, map_toNat_lt]
  simp

/-- **Two names of one directory stand in the order of their bytes.** -/
theorem precedes_join (dir : Path) {a b : Bytes} (ha : IsName a) (hb : IsName b) :
    (dir.join a).precedes (dir.join b) = true ↔ ¬b < a := by
  have hkeys {bytes : Bytes} (h : IsName bytes) :
      (dir.join bytes).sortKeys = dir.sortKeys ++ [(Component.name bytes).sortKey] := by
    rw [sortKeys, components_join dir h, List.map_append]
    rfl
  have hstrict {x y : List ℕ} (h : x < y) : dir.sortKeys ++ [x] < dir.sortKeys ++ [y] :=
    List.append_left_lt (List.cons_lt_cons_iff.mpr (.inl h))
  rw [precedes_iff, hkeys ha, hkeys hb, ← not_lt, not_iff_not]
  constructor
  · intro h
    rw [← sortKey_name_lt]
    by_contra hnot
    rcases (not_lt.mp hnot).lt_or_eq with hlt | heq
    · exact lt_asymm h (hstrict hlt)
    · exact lt_irrefl _ (heq ▸ h)
  · intro h
    exact hstrict (sortKey_name_lt.mpr h)

end Path

end RunSweep
