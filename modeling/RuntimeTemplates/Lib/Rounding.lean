import Mathlib.Algebra.Order.Field.Rat
import Mathlib.Algebra.Order.Ring.Abs
import Mathlib.Tactic.FieldSimp
import Mathlib.Tactic.Linarith
import Mathlib.Tactic.Ring

/-!
# RuntimeTemplates.Lib.Rounding

Quotients of natural numbers rounded to integers.

* `Nearest d n m`: `m` is an integer nearest to `n / d`. Of two equally near ones it is either.
* `Nearest.mono_mul`, `Nearest.split`, `Nearest.close`: rounding keeps the order, changes by at most
  one when a numerator is split, and is off by at most a half.
* `floor_close`: a fraction rounded down to the denominator `d` is off by at most `1 / d`.
-/

namespace Rounding

structure Nearest (d n m : Nat) : Prop where
  le : 2 * (d * m) ≤ 2 * n + d
  ge : 2 * n ≤ 2 * (d * m) + d

variable {d n n' m m' k : Nat}

/-- Even where ties are broken at will, a greater quotient is rounded to no smaller integer. -/
theorem Nearest.mono (h : Nearest d n m) (h' : Nearest d n' m') (hlt : n < n') : m ≤ m' := by
  by_contra hm
  have hstep : d * (m' + 1) ≤ d * m := Nat.mul_le_mul_left d (Nat.lt_of_not_le hm)
  rw [Nat.mul_add, Nat.mul_one] at hstep
  have hle := h.le
  have hge := h'.ge
  omega

theorem Nearest.eq_zero (hd : 0 < d) (h : Nearest d 0 m) : m = 0 := by
  by_contra hm
  have hstep : d * 1 ≤ d * m := Nat.mul_le_mul_left d (Nat.pos_of_ne_zero hm)
  have hle := h.le
  omega

/-- Multiples of one number, zero included, are rounded in their order. -/
theorem Nearest.mono_mul (hd : 0 < d) {a x y : Nat} (h : Nearest d (a * x) m)
    (h' : Nearest d (a * y) m') (hxy : x < y) : m ≤ m' := by
  rcases Nat.eq_zero_or_pos a with rfl | ha
  · rw [Nat.zero_mul] at h
    rw [h.eq_zero hd]
    exact Nat.zero_le m'
  · exact h.mono h' (Nat.mul_lt_mul_of_pos_left hxy ha)

theorem Nearest.le_of_le (hd : 0 < d) (h : Nearest d n m) {x : Nat} (hn : n ≤ d * x) : m ≤ x := by
  by_contra hm
  have hstep : d * (x + 1) ≤ d * m := Nat.mul_le_mul_left d (Nat.lt_of_not_le hm)
  rw [Nat.mul_add, Nat.mul_one] at hstep
  have hle := h.le
  omega

theorem Nearest.split (hd : 0 < d) (h : Nearest d n m) (h' : Nearest d n' m')
    (hsum : Nearest d (n + n') k) : m + m' ≤ k + 1 ∧ k ≤ m + m' + 1 := by
  have hm : d * (m + m') = d * m + d * m' := Nat.mul_add d m m'
  have h₁ := h.le
  have h₂ := h.ge
  have h₃ := h'.le
  have h₄ := h'.ge
  have h₅ := hsum.le
  have h₆ := hsum.ge
  constructor
  · by_contra hgt
    have hstep : d * (k + 2) ≤ d * (m + m') := Nat.mul_le_mul_left d (by omega)
    rw [Nat.mul_add] at hstep
    omega
  · by_contra hgt
    have hstep : d * (m + m' + 2) ≤ d * k := Nat.mul_le_mul_left d (by omega)
    rw [Nat.mul_add] at hstep
    omega

theorem Nearest.close (hd : 0 < d) (h : Nearest d n m) : |(m : ℚ) - n / d| ≤ 1 / 2 := by
  have hd' : (0 : ℚ) < d := Nat.cast_pos.mpr hd
  have hle : 2 * ((d : ℚ) * m) ≤ 2 * n + d := by exact_mod_cast h.le
  have hge : 2 * (n : ℚ) ≤ 2 * (d * m) + d := by exact_mod_cast h.ge
  have hdiv : (m : ℚ) - n / d = (d * m - n) / d := by
    rw [sub_div, mul_div_cancel_left₀ _ hd'.ne']
  rw [hdiv, abs_le, le_div_iff₀ hd', div_le_iff₀ hd']
  constructor
  · linarith
  · linarith

theorem floor_close {p q : Nat} (hd : 0 < d) (hq : 0 < q) :
    |((p * d / q : Nat) : ℚ) / d - p / q| ≤ 1 / d := by
  have hd' : (0 : ℚ) < d := Nat.cast_pos.mpr hd
  have hq' : (0 : ℚ) < q := Nat.cast_pos.mpr hq
  have hfloor : ((p * d / q : Nat) : ℚ) ≤ p * d / q := by
    rw [le_div_iff₀ hq']
    exact_mod_cast Nat.div_mul_le_self (p * d) q
  have hnext : (p * d / q : ℚ) ≤ ((p * d / q : Nat) : ℚ) + 1 := by
    rw [div_le_iff₀ hq']
    exact_mod_cast (Nat.lt_mul_of_div_lt (Nat.lt_succ_self (p * d / q)) hq).le
  have hscale : (p : ℚ) / q = p * d / q / d := by field_simp
  rw [hscale, ← sub_div, abs_le, ← neg_div, div_le_div_iff_of_pos_right hd',
    div_le_div_iff_of_pos_right hd']
  constructor
  · linarith
  · linarith

end Rounding
