import Mathlib.Algebra.BigOperators.Group.List.Basic

/-!
# RuntimeTemplates.Lib.Attempts

A loop that attempts one action for each item of a list and goes on whatever the outcome. Whether
an attempt succeeds may depend on what the earlier ones did to the state.

* `attemptAll act xs s`: the state the loop ends in.
* `succeeded act xs s`: the items whose attempt succeeds in the state the loop has reached by then.
* `RollsBack act`: a failed attempt leaves the state as it was. Then the loop is the run of the
  attempts that succeeded (`attemptAll_eq_foldl`), and what each success adds to a quantity adds up
  (`attemptAll_sum`).
* `failed act xs s`: the items that are left of the list without the ones that succeed.
* `attemptAll_settles`: an invariant that speaks of the items still to come.
* `recorded act`: the action with a record of its calls.
-/

namespace Attempts

variable {α σ ε : Type*} (act : α → σ → Except ε Unit × σ)

def attemptAll (xs : List α) (s : σ) : σ := xs.foldl (fun s x => (act x s).2) s

def succeeds (x : α) (s : σ) : Bool :=
  match (act x s).1 with
  | .ok _ => true
  | .error _ => false

def succeeded : List α → σ → List α
  | [], _ => []
  | x :: xs, s =>
    if succeeds act x s then x :: succeeded xs (act x s).2 else succeeded xs (act x s).2

@[simp] theorem attemptAll_nil (s : σ) : attemptAll act [] s = s := rfl

@[simp] theorem attemptAll_cons (x : α) (xs : List α) (s : σ) :
    attemptAll act (x :: xs) s = attemptAll act xs (act x s).2 := rfl

theorem succeeded_sublist (xs : List α) (s : σ) : (succeeded act xs s).Sublist xs := by
  induction xs generalizing s with
  | nil => exact .slnil
  | cons x xs ih =>
    rw [succeeded]
    split
    · exact (ih _).cons_cons x
    · exact (ih _).cons x

def failed : List α → σ → List α
  | [], _ => []
  | x :: xs, s =>
    if succeeds act x s then failed xs (act x s).2 else x :: failed xs (act x s).2

theorem succeeded_append_failed_perm (xs : List α) (s : σ) :
    (succeeded act xs s ++ failed act xs s).Perm xs := by
  induction xs generalizing s with
  | nil => exact .nil
  | cons x xs ih =>
    rw [succeeded, failed]
    split
    · exact (ih _).cons x
    · exact List.perm_middle.trans ((ih _).cons x)

/-- What holds of the items to come and the state, and is kept by each attempt for the items after
it, holds in the end of no items. -/
theorem attemptAll_settles {act : α → σ → Except ε Unit × σ} {I : List α → σ → Prop}
    (hstep : ∀ x xs s, I (x :: xs) s → I xs (act x s).2) {xs : List α} {s : σ} (h : I xs s) :
    I [] (attemptAll act xs s) := by
  induction xs generalizing s with
  | nil => exact h
  | cons x xs ih =>
    rw [attemptAll_cons]
    exact ih (hstep x xs s h)

/-- A quantity that a success of `x` raises by `gain x`, and a failure leaves as it is, is raised by
the sum of these. -/
theorem attemptAll_gain {act : α → σ → Except ε Unit × σ} {M : Type*} [AddMonoid M]
    (quantity : σ → M) (gain : α → M) {xs : List α}
    (h : ∀ x ∈ xs, ∀ s, quantity (act x s).2 =
      quantity s + if succeeds act x s = true then gain x else 0) (s : σ) :
    quantity (attemptAll act xs s) = quantity s + ((succeeded act xs s).map gain).sum := by
  induction xs generalizing s with
  | nil => simp [succeeded]
  | cons x xs ih =>
    rw [attemptAll_cons, ih (fun y hy => h y (List.mem_cons_of_mem x hy)), succeeded,
      h x List.mem_cons_self s]
    cases hx : succeeds act x s with
    | true => rw [if_pos rfl, if_pos rfl, List.map_cons, List.sum_cons, add_assoc]
    | false => rw [if_neg Bool.false_ne_true, if_neg Bool.false_ne_true, add_zero]

theorem succeeded_eq_nil {act : α → σ → Except ε Unit × σ}
    (h : ∀ x s, succeeds act x s = false) (xs : List α) (s : σ) : succeeded act xs s = [] := by
  induction xs generalizing s with
  | nil => rfl
  | cons x xs ih =>
    rw [succeeded, h x s]
    exact ih _

/-! ## Failures that leave no trace -/

def RollsBack : Prop := ∀ x s, succeeds act x s = false → (act x s).2 = s

variable {act}

/-- The loop does what its successful attempts do. -/
theorem attemptAll_eq_foldl (h : RollsBack act) (xs : List α) (s : σ) :
    attemptAll act xs s = (succeeded act xs s).foldl (fun s x => (act x s).2) s := by
  induction xs generalizing s with
  | nil => rfl
  | cons x xs ih =>
    rw [attemptAll_cons, succeeded]
    cases hx : succeeds act x s with
    | true => rw [if_pos rfl, List.foldl_cons, ih]
    | false =>
      rw [if_neg Bool.false_ne_true, h x s hx]
      exact ih s

/-- A quantity that every success of `x` raises by `gain x` is raised by the sum of these. -/
theorem attemptAll_sum {M : Type*} [AddMonoid M] (quantity : σ → M) (gain : α → M)
    (h : RollsBack act) {xs : List α}
    (hgain : ∀ x ∈ xs, ∀ s, succeeds act x s = true → quantity (act x s).2 = quantity s + gain x)
    (s : σ) :
    quantity (attemptAll act xs s) = quantity s + ((succeeded act xs s).map gain).sum := by
  refine attemptAll_gain quantity gain ?_ s
  intro x hx s
  cases hs : succeeds act x s with
  | true => rw [if_pos rfl, hgain x hx s hs]
  | false => rw [if_neg Bool.false_ne_true, h x s hs, add_zero]

/-! ## Records -/

variable (act)

/-- The same action, which also appends itself to a record. -/
def recorded (x : α) (s : σ × List α) : Except ε Unit × (σ × List α) :=
  ((act x s.1).1, ((act x s.1).2, s.2 ++ [x]))

/-- The loop attempts every item once, in order, and a record does not change what it does. -/
theorem attemptAll_recorded (xs : List α) (s : σ) (record : List α) :
    attemptAll (recorded act) xs (s, record) = (attemptAll act xs s, record ++ xs) := by
  induction xs generalizing s record with
  | nil => rw [attemptAll_nil, attemptAll_nil, List.append_nil]
  | cons x xs ih =>
    rw [attemptAll_cons, attemptAll_cons, recorded, ih, List.append_assoc, List.singleton_append]

end Attempts
