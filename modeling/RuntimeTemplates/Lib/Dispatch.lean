import Mathlib.Logic.Basic

/-!
# RuntimeTemplates.Lib.Dispatch

Calls over storage that may fail. What a call wrote before it failed stays written, unless it is
`transactional`, which puts the storage back.

* `Dispatch ε σ α`: a call over storage `σ` with errors `ε`; `exec` runs it.
* `ensure`, `ensureSome`: the guards `ensure!(c, e)` and `o.ok_or(e)?`.
* `exec_ensure_bind`, `exec_ensureSome_bind`, `exec_get_bind`, `exec_bind`: execution, one
  statement at a time.
* `transactional_unchanged`, `transactional_ok_iff`: the two rules of a transaction.
-/

abbrev Dispatch (ε σ α : Type) := ExceptT ε (StateM σ) α

namespace Dispatch

variable {ε σ α β : Type}

def exec (x : Dispatch ε σ α) (s : σ) : Except ε α × σ := x s

def ensure (c : Prop) [Decidable c] (e : ε) : Dispatch ε σ Unit :=
  if c then pure () else throw e

def ensureSome (o : Option α) (e : ε) : Dispatch ε σ α :=
  match o with
  | some a => pure a
  | none => throw e

/-- Runs the call and puts the storage back when it fails. -/
def transactional (x : Dispatch ε σ α) : Dispatch ε σ α := fun s =>
  match x.exec s with
  | (.ok a, s') => (.ok a, s')
  | (.error e, _) => (.error e, s)

theorem exec_bind (x : Dispatch ε σ α) (f : α → Dispatch ε σ β) (s : σ) :
    (x >>= f).exec s =
      match x.exec s with
      | (.ok a, s') => (f a).exec s'
      | (.error e, s') => (.error e, s') := by
  rw [exec]
  simp only [bind, ExceptT.bind, ExceptT.mk, ExceptT.bindCont, StateT.bind, exec]
  cases x s with
  | mk r s' => cases r <;> rfl

@[simp] theorem exec_pure (a : α) (s : σ) : (pure a : Dispatch ε σ α).exec s = (.ok a, s) := rfl

@[simp] theorem exec_throw (e : ε) (s : σ) :
    (throw e : Dispatch ε σ α).exec s = (.error e, s) := rfl

@[simp] theorem exec_modify (g : σ → σ) (s : σ) :
    (modify g : Dispatch ε σ Unit).exec s = (.ok (), g s) := rfl

@[simp] theorem exec_get_bind (f : σ → Dispatch ε σ β) (s : σ) :
    (get >>= f).exec s = (f s).exec s := rfl

@[simp] theorem exec_ensure_bind (c : Prop) [Decidable c] (e : ε) (f : Unit → Dispatch ε σ β)
    (s : σ) : (ensure c e >>= f).exec s = if c then (f ()).exec s else (.error e, s) := by
  rw [exec_bind, ensure]
  by_cases hc : c
  · simp [hc]
  · simp [hc]

@[simp] theorem exec_ensureSome_bind (o : Option α) (e : ε) (f : α → Dispatch ε σ β) (s : σ) :
    (ensureSome o e >>= f).exec s =
      match o with
      | some a => (f a).exec s
      | none => (.error e, s) := by
  rw [exec_bind]
  cases o <;> rfl

/-! ## Transactions -/

theorem transactional_exec (x : Dispatch ε σ α) (s : σ) :
    x.transactional.exec s =
      match x.exec s with
      | (.ok a, s') => (.ok a, s')
      | (.error e, _) => (.error e, s) := rfl

theorem transactional_unchanged {x : Dispatch ε σ α} {s s' : σ} {e : ε}
    (h : x.transactional.exec s = (.error e, s')) : s' = s := by
  rw [transactional_exec] at h
  split at h
  · cases h
  · cases h; rfl

theorem transactional_ok_iff {x : Dispatch ε σ α} {s s' : σ} {a : α} :
    x.transactional.exec s = (.ok a, s') ↔ x.exec s = (.ok a, s') := by
  rw [transactional_exec]
  rcases x.exec s with ⟨r, s₁⟩
  cases r <;> simp

end Dispatch
