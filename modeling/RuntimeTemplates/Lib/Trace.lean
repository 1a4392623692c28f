import Mathlib.Data.List.Basic

/-!
# RuntimeTemplates.Lib.Trace

Finite runs of a labelled step relation, over any states and actions.

* `Trace step s as s'`: the actions `as` lead from `s` to `s'`, one step each.
* `Trace.invariant_of`: the induction rule for an invariant, when every action of the run meets a
  condition; `Trace.invariant` is the case without a condition.
* `Trace.relabel`: a run is matched, action by action, by a run of another relation.
* `Trace.simulates`: the same up to a relation of states, where some actions match none.
* `Trace.split`: a run of actions one after the other is two runs.
-/

inductive Trace {σ α : Type*} (step : σ → α → σ → Prop) : σ → List α → σ → Prop where
  | nil (s : σ) : Trace step s [] s
  | cons {s s' s'' : σ} {a : α} {as : List α} :
      step s a s' → Trace step s' as s'' → Trace step s (a :: as) s''

namespace Trace

variable {σ τ α β : Type*} {step : σ → α → σ → Prop}

theorem single {s s' : σ} {a : α} (h : step s a s') : Trace step s [a] s' := .cons h (.nil s')

/-- What every step whose action meets `C` preserves, a run of such actions preserves. -/
theorem invariant_of {C : α → Prop} {I : σ → Prop}
    (hstep : ∀ s a s', C a → I s → step s a s' → I s') {s s' : σ} {as : List α}
    (h : Trace step s as s') (hC : ∀ a ∈ as, C a) (hI : I s) : I s' := by
  induction h with
  | nil s => exact hI
  | @cons s s₁ s₂ a as hs _ ih =>
    have h₁ : I s₁ := hstep s a s₁ (hC a (by simp)) hI hs
    exact ih (fun b hb => hC b (by simp [hb])) h₁

theorem invariant {I : σ → Prop} (hstep : ∀ s a s', I s → step s a s' → I s') {s s' : σ}
    {as : List α} (h : Trace step s as s') (hI : I s) : I s' :=
  invariant_of (C := fun _ => True) (fun s a s' _ => hstep s a s') h (fun _ _ => trivial) hI

/-- A run of one relation is, action by action, a run of any relation that matches its steps. -/
theorem relabel {step' : σ → β → σ → Prop} {g : α → β}
    (hsim : ∀ s a s', step s a s' → step' s (g a) s') {s s' : σ} {as : List α}
    (h : Trace step s as s') : Trace step' s (as.map g) s' := by
  induction h with
  | nil s => exact .nil s
  | cons hs _ ih => exact .cons (hsim _ _ _ hs) ih

/-- A run is matched by one of another relation, over the labels that its actions have; an action
without a label keeps the states related. -/
theorem simulates {step' : τ → β → τ → Prop} {label : α → Option β} {R : σ → τ → Prop}
    (hmatch : ∀ s a s' t b, label a = some b → R s t → step s a s' → ∃ t', step' t b t' ∧ R s' t')
    (hskip : ∀ s a s' t, label a = none → R s t → step s a s' → R s' t) {s s' : σ} {t : τ}
    {as : List α} (h : Trace step s as s') (hR : R s t) :
    ∃ t', Trace step' t (as.filterMap label) t' ∧ R s' t' := by
  induction h generalizing t with
  | nil s => exact ⟨t, .nil t, hR⟩
  | @cons s s₁ s₂ a as hs _ ih =>
    cases hl : label a with
    | none =>
      rw [List.filterMap_cons_none hl]
      exact ih (hskip s a s₁ t hl hR hs)
    | some b =>
      obtain ⟨t₁, ht, hR₁⟩ := hmatch s a s₁ t b hl hR hs
      obtain ⟨t₂, hrun, hR₂⟩ := ih hR₁
      rw [List.filterMap_cons_some hl]
      exact ⟨t₂, .cons ht hrun, hR₂⟩

theorem split {s s'' : σ} {as bs : List α} (h : Trace step s (as ++ bs) s'') :
    ∃ s', Trace step s as s' ∧ Trace step s' bs s'' := by
  induction as generalizing s with
  | nil => exact ⟨s, .nil s, h⟩
  | cons a as ih =>
    cases h with
    | cons hs hrest =>
      obtain ⟨s', has, hbs⟩ := ih hrest
      exact ⟨s', .cons hs has, hbs⟩

end Trace
