import Mathlib.Data.List.Basic

/-!
# RuntimeTemplates.Lib.Segments

Lists that are worked off in segments, of which each has room for so much.

* `cut starts l`: the items before the first that starts a segment, and then the segments, each with
  the item that starts it.
* `fitting limit cost used l`: the longest beginning of `l` that costs, together with what is used
  already, less than the limit. `fitting_begins`, `fitting_total`, `fitting_maximal` say so.
-/

namespace Segments

variable {α : Type*}

def total (cost : α → Nat) : List α → Nat
  | [] => 0
  | x :: xs => cost x + total cost xs

theorem total_append (cost : α → Nat) (xs ys : List α) :
    total cost (xs ++ ys) = total cost xs + total cost ys := by
  induction xs with
  | nil => exact (Nat.zero_add _).symm
  | cons x xs ih => rw [List.cons_append, total, total, ih, Nat.add_assoc]

/-! ## Segments -/

section Cut

variable (starts : α → Bool)

def cut : List α → List α × List (α × List α)
  | [] => ([], [])
  | x :: xs =>
    if starts x then ([], (x, (cut xs).1) :: (cut xs).2) else (x :: (cut xs).1, (cut xs).2)

variable {starts}

theorem cut_start {x : α} (h : starts x = true) (xs : List α) :
    cut starts (x :: xs) = ([], (x, (cut starts xs).1) :: (cut starts xs).2) := if_pos h

theorem cut_more {x : α} (h : starts x = false) (xs : List α) :
    cut starts (x :: xs) = (x :: (cut starts xs).1, (cut starts xs).2) := by
  rw [cut, h]
  rfl

/-- The segments are the list again. -/
theorem cut_join (xs : List α) :
    (cut starts xs).1 ++ ((cut starts xs).2.flatMap fun s => s.1 :: s.2) = xs := by
  induction xs with
  | nil => rfl
  | cons x xs ih =>
    by_cases h : starts x = true
    · rw [cut_start h, List.flatMap_cons, List.nil_append, List.cons_append, ih]
    · rw [cut_more (Bool.not_eq_true _ ▸ h), List.cons_append, ih]

theorem mem_of_mem_cut {xs : List α} {x : α} (h : x ∈ (cut starts xs).1) : x ∈ xs := by
  rw [← @cut_join _ starts xs]
  exact List.mem_append_left _ h

theorem mem_of_mem_segment {xs : List α} {s : α × List α} (hs : s ∈ (cut starts xs).2) {x : α}
    (h : x ∈ s.1 :: s.2) : x ∈ xs := by
  rw [← @cut_join _ starts xs]
  exact List.mem_append_right _ (List.mem_flatMap.mpr ⟨s, hs, h⟩)

theorem starts_of_mem_cut {xs : List α} {s : α × List α} (hs : s ∈ (cut starts xs).2) :
    starts s.1 = true := by
  induction xs with
  | nil => cases hs
  | cons x xs ih =>
    by_cases h : starts x = true
    · rw [cut_start h] at hs
      rcases List.mem_cons.mp hs with rfl | hs
      · exact h
      · exact ih hs
    · rw [cut_more (Bool.not_eq_true _ ▸ h)] at hs
      exact ih hs

end Cut

/-! ## What fits -/

section Fitting

variable (limit : Nat) (cost : α → Nat)

def fitting : Nat → List α → List α
  | _, [] => []
  | used, x :: xs => if used + cost x < limit then x :: fitting (used + cost x) xs else []

variable {limit cost} {used : Nat}

theorem fitting_full (h : limit ≤ used) (xs : List α) : fitting limit cost used xs = [] := by
  cases xs with
  | nil => rfl
  | cons x xs => exact if_neg (by omega)

theorem fitting_begins (used : Nat) (xs : List α) : fitting limit cost used xs <+: xs := by
  induction xs generalizing used with
  | nil => exact List.nil_prefix
  | cons x xs ih =>
    rw [fitting]
    split
    · exact List.cons_prefix_cons.mpr ⟨rfl, ih _⟩
    · exact List.nil_prefix

theorem fitting_total (h : used < limit) (xs : List α) :
    used + total cost (fitting limit cost used xs) < limit := by
  induction xs generalizing used with
  | nil => exact h
  | cons x xs ih =>
    rw [fitting]
    split
    · rename_i hx
      have hrest := ih hx
      rw [total]
      omega
    · exact h

/-- The next item does not fit any more. -/
theorem fitting_maximal {xs rest : List α} {x : α}
    (h : fitting limit cost used xs ++ x :: rest = xs) :
    limit ≤ used + total cost (fitting limit cost used xs) + cost x := by
  induction xs generalizing used with
  | nil => simp at h
  | cons y ys ih =>
    rw [fitting] at h ⊢
    split at h
    · rename_i hy
      rw [if_pos hy, total]
      have hrest := ih (List.cons.inj h).2
      omega
    · rename_i hy
      rw [if_neg hy, total]
      obtain rfl : x = y := (List.cons.inj h).1
      omega

end Fitting

end Segments
