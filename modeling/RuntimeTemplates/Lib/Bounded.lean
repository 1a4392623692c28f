import Mathlib.Data.Nat.Basic

/-!
# RuntimeTemplates.Lib.Bounded

Arithmetic on natural numbers up to a bound.

* `Arithmetic M`: the operations, with their results in `M`. `saturating` stays at the bound,
  `checked` fails where a result is not exact.
* `Agrees`: a checked result that there is, is the saturated one. `agrees_add` and the lemmas after
  it, with `Agrees.bind`, carry that to any computation.
-/

namespace Bounded

inductive ArithmeticError where
  | overflow
  | divisionByZero
  deriving DecidableEq

structure Arithmetic (M : Type → Type) where
  add : Nat → Nat → M Nat
  sub : Nat → Nat → M Nat
  mul : Nat → Nat → M Nat
  pow : Nat → Nat → M Nat

def within (max n : Nat) : Except ArithmeticError Nat :=
  if n ≤ max then .ok n else .error .overflow

def saturating (max : Nat) : Arithmetic Id where
  add a b := Nat.min (a + b) max
  sub a b := a - b
  mul a b := Nat.min (a * b) max
  pow a n := Nat.min (Nat.pow a n) max

def checked (max : Nat) : Arithmetic (Except ArithmeticError) where
  add a b := within max (a + b)
  sub a b := if b ≤ a then .ok (a - b) else .error .overflow
  mul a b := within max (a * b)
  pow a n := within max (Nat.pow a n)

def checkedDiv (a b : Nat) : Except ArithmeticError Nat :=
  if b = 0 then .error .divisionByZero else .ok (a / b)

def checkedRem (a b : Nat) : Except ArithmeticError Nat :=
  if b = 0 then .error .divisionByZero else .ok (a % b)

/-! ## Exact results -/

section Exact

variable {max a b n : Nat}

theorem within_of_le (h : n ≤ max) : within max n = .ok n := if_pos h

theorem checked_add_of_le (h : a + b ≤ max) : (checked max).add a b = .ok (a + b) := within_of_le h

theorem checked_mul_of_le (h : a * b ≤ max) : (checked max).mul a b = .ok (a * b) := within_of_le h

theorem checked_pow_one (h : a ≤ max) : (checked max).pow a 1 = .ok a := by
  have hpow : Nat.pow a 1 = a := Nat.pow_one a
  calc (checked max).pow a 1 = within max (Nat.pow a 1) := rfl
    _ = .ok a := by rw [hpow, within_of_le h]

theorem checkedDiv_of_pos (h : 0 < b) : checkedDiv a b = .ok (a / b) := if_neg (Nat.ne_of_gt h)

theorem checkedRem_of_pos (h : 0 < b) : checkedRem a b = .ok (a % b) := if_neg (Nat.ne_of_gt h)

end Exact

/-! ## Checked and saturated results -/

section Agreement

variable {α β : Type}

def Agrees (r : Except ArithmeticError α) (a : Id α) : Prop := ∀ x, r = .ok x → a = x

theorem agrees_pure (a : α) : Agrees (pure a) (pure a) := by
  intro x h
  cases h
  rfl

theorem Agrees.bind {r : Except ArithmeticError α} {a : Id α} {f : α → Except ArithmeticError β}
    {g : α → Id β} (h : Agrees r a) (hf : ∀ x, Agrees (f x) (g x)) :
    Agrees (r >>= f) (a >>= g) := by
  intro y hy
  cases r with
  | error e => cases hy
  | ok x =>
    rw [h x rfl]
    exact hf x y hy

theorem agrees_within (max n : Nat) : Agrees (within max n) (Nat.min n max) := by
  intro x h
  unfold within at h
  split at h
  · rename_i hle
    cases h
    exact Nat.min_eq_left hle
  · cases h

theorem agrees_add (max a b : Nat) : Agrees ((checked max).add a b) ((saturating max).add a b) :=
  agrees_within max (a + b)

theorem agrees_mul (max a b : Nat) : Agrees ((checked max).mul a b) ((saturating max).mul a b) :=
  agrees_within max (a * b)

theorem agrees_pow (max a n : Nat) : Agrees ((checked max).pow a n) ((saturating max).pow a n) :=
  agrees_within max (Nat.pow a n)

theorem agrees_sub (max a b : Nat) : Agrees ((checked max).sub a b) ((saturating max).sub a b) := by
  intro x h
  simp only [checked] at h
  split at h
  · cases h
    rfl
  · cases h

end Agreement

end Bounded
