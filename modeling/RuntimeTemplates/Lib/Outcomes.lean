import Mathlib.Data.List.Basic

/-!
# RuntimeTemplates.Lib.Outcomes

The possible outcomes of transactional calls, collected over every state they may run in. A call
fails and leaves nothing behind, or it is done and leaves its effects.

* `both`, `untilFailure`, `absorb`, `orElse`: how a call is put together from others, by what it
  makes of their failures.
* `MayFail`, `MaySucceed`, `Commits P`: what is possible, with one rule for each combinator.
-/

inductive Outcome (ε : Type*) where
  | failed
  | done (effects : List ε)
  deriving DecidableEq

namespace Outcome

variable {ε : Type*}

def prepend (before : List ε) : Outcome ε → Outcome ε
  | failed => failed
  | done effects => done (before ++ effects)

/-- Both calls, or nothing. -/
def both (first rest : List (Outcome ε)) : List (Outcome ε) :=
  first.flatMap fun
    | failed => [failed]
    | done effects => rest.map (prepend effects)

/-- The rest runs unless the first call fails; the failure ends the sequence and is no failure. -/
def untilFailure (first rest : List (Outcome ε)) : List (Outcome ε) :=
  first.flatMap fun
    | failed => [done []]
    | done effects => rest.map (prepend effects)

/-- A failure counts as done. -/
def absorb (call : List (Outcome ε)) : List (Outcome ε) :=
  call.map fun
    | failed => done []
    | done effects => done effects

/-- The second call runs if the first one fails. -/
def orElse (main fallback : List (Outcome ε)) : List (Outcome ε) :=
  main.flatMap fun
    | failed => fallback
    | done effects => [done effects]

/-- A check before the call, which fails it. -/
def require (check : Bool) (call : List (Outcome ε)) : List (Outcome ε) :=
  if check then call else [failed]

def MayFail (s : List (Outcome ε)) : Prop := failed ∈ s

def MaySucceed (s : List (Outcome ε)) : Prop := ∃ effects, done effects ∈ s

/-- Some way of running the call leaves an effect of the kind `P`. -/
def Commits (P : ε → Prop) (s : List (Outcome ε)) : Prop :=
  ∃ effects, done effects ∈ s ∧ ∃ x ∈ effects, P x

variable {P : ε → Prop} {s u : List (Outcome ε)}

theorem Commits.maySucceed (h : Commits P s) : MaySucceed s := by
  obtain ⟨effects, hs, -⟩ := h
  exact ⟨effects, hs⟩

@[simp] theorem prepend_eq_failed {before : List ε} {o : Outcome ε} :
    o.prepend before = failed ↔ o = failed := by
  cases o <;> simp [prepend]

@[simp] theorem prepend_eq_done {before effects : List ε} {o : Outcome ε} :
    o.prepend before = done effects ↔ ∃ after, o = done after ∧ before ++ after = effects := by
  cases o <;> simp [prepend]

theorem require_ne_nil {call : List (Outcome ε)} (h : call ≠ []) (check : Bool) :
    require check call ≠ [] := by
  cases check with
  | true => exact h
  | false => exact List.cons_ne_nil _ _

/-! ## Membership -/

theorem failed_mem_both : failed ∈ both s u ↔ failed ∈ s ∨ (MaySucceed s ∧ failed ∈ u) := by
  rw [both, List.mem_flatMap]
  constructor
  · rintro ⟨o, ho, h⟩
    cases o with
    | failed => exact .inl ho
    | done effects =>
      obtain ⟨o', ho', heq⟩ := List.mem_map.mp h
      rw [prepend_eq_failed] at heq
      exact .inr ⟨⟨effects, ho⟩, heq ▸ ho'⟩
  · rintro (h | ⟨⟨effects, hs⟩, hu⟩)
    · exact ⟨failed, h, List.mem_singleton.mpr rfl⟩
    · exact ⟨done effects, hs, List.mem_map.mpr ⟨failed, hu, rfl⟩⟩

theorem done_mem_both {effects : List ε} :
    done effects ∈ both s u ↔
      ∃ before after, done before ∈ s ∧ done after ∈ u ∧ before ++ after = effects := by
  rw [both, List.mem_flatMap]
  constructor
  · rintro ⟨o, ho, h⟩
    cases o with
    | failed => cases List.mem_singleton.mp h
    | done before =>
      obtain ⟨o', ho', heq⟩ := List.mem_map.mp h
      obtain ⟨after, rfl, happ⟩ := prepend_eq_done.mp heq
      exact ⟨before, after, ho, ho', happ⟩
  · rintro ⟨before, after, hs, hu, rfl⟩
    exact ⟨done before, hs, List.mem_map.mpr ⟨done after, hu, rfl⟩⟩

theorem failed_mem_untilFailure : failed ∈ untilFailure s u ↔ MaySucceed s ∧ failed ∈ u := by
  rw [untilFailure, List.mem_flatMap]
  constructor
  · rintro ⟨o, ho, h⟩
    cases o with
    | failed => cases List.mem_singleton.mp h
    | done effects =>
      obtain ⟨o', ho', heq⟩ := List.mem_map.mp h
      rw [prepend_eq_failed] at heq
      exact ⟨⟨effects, ho⟩, heq ▸ ho'⟩
  · rintro ⟨⟨effects, hs⟩, hu⟩
    exact ⟨done effects, hs, List.mem_map.mpr ⟨failed, hu, rfl⟩⟩

theorem done_mem_untilFailure {effects : List ε} :
    done effects ∈ untilFailure s u ↔ (failed ∈ s ∧ effects = []) ∨
      ∃ before after, done before ∈ s ∧ done after ∈ u ∧ before ++ after = effects := by
  rw [untilFailure, List.mem_flatMap]
  constructor
  · rintro ⟨o, ho, h⟩
    cases o with
    | failed =>
      have heq := List.mem_singleton.mp h
      exact .inl ⟨ho, by simpa using heq⟩
    | done before =>
      obtain ⟨o', ho', heq⟩ := List.mem_map.mp h
      obtain ⟨after, rfl, happ⟩ := prepend_eq_done.mp heq
      exact .inr ⟨before, after, ho, ho', happ⟩
  · rintro (⟨hs, rfl⟩ | ⟨before, after, hs, hu, rfl⟩)
    · exact ⟨failed, hs, List.mem_singleton.mpr rfl⟩
    · exact ⟨done before, hs, List.mem_map.mpr ⟨done after, hu, rfl⟩⟩

theorem failed_not_mem_absorb : failed ∉ absorb s := by
  rw [absorb, List.mem_map]
  rintro ⟨o, -, h⟩
  cases o <;> cases h

theorem done_mem_absorb {effects : List ε} :
    done effects ∈ absorb s ↔ done effects ∈ s ∨ (failed ∈ s ∧ effects = []) := by
  rw [absorb, List.mem_map]
  constructor
  · rintro ⟨o, ho, h⟩
    cases o with
    | failed => cases h; exact .inr ⟨ho, rfl⟩
    | done e => cases h; exact .inl ho
  · rintro (h | ⟨h, rfl⟩)
    · exact ⟨done effects, h, rfl⟩
    · exact ⟨failed, h, rfl⟩

theorem failed_mem_orElse : failed ∈ orElse s u ↔ failed ∈ s ∧ failed ∈ u := by
  rw [orElse, List.mem_flatMap]
  constructor
  · rintro ⟨o, ho, h⟩
    cases o with
    | failed => exact ⟨ho, h⟩
    | done effects => cases List.mem_singleton.mp h
  · rintro ⟨hs, hu⟩
    exact ⟨failed, hs, hu⟩

theorem done_mem_orElse {effects : List ε} :
    done effects ∈ orElse s u ↔ done effects ∈ s ∨ (failed ∈ s ∧ done effects ∈ u) := by
  rw [orElse, List.mem_flatMap]
  constructor
  · rintro ⟨o, ho, h⟩
    cases o with
    | failed => exact .inr ⟨ho, h⟩
    | done e => exact .inl (List.mem_singleton.mp h ▸ ho)
  · rintro (h | ⟨hs, hu⟩)
    · exact ⟨done effects, h, List.mem_singleton.mpr rfl⟩
    · exact ⟨failed, hs, hu⟩

/-! ## What may happen -/

theorem maySucceed_both : MaySucceed (both s u) ↔ MaySucceed s ∧ MaySucceed u := by
  constructor
  · rintro ⟨effects, h⟩
    obtain ⟨before, after, hs, hu, -⟩ := done_mem_both.mp h
    exact ⟨⟨before, hs⟩, after, hu⟩
  · rintro ⟨⟨before, hs⟩, after, hu⟩
    exact ⟨before ++ after, done_mem_both.mpr ⟨before, after, hs, hu, rfl⟩⟩

/-- An effect of two calls in a row is one of either, where both can be done. -/
theorem exists_append_iff :
    (∃ before after, done before ∈ s ∧ done after ∈ u ∧ ∃ x ∈ before ++ after, P x) ↔
      (MaySucceed s ∧ MaySucceed u) ∧ (Commits P s ∨ Commits P u) := by
  constructor
  · rintro ⟨before, after, hs, hu, x, hx, hp⟩
    refine ⟨⟨⟨before, hs⟩, after, hu⟩, ?_⟩
    rcases List.mem_append.mp hx with hx | hx
    · exact .inl ⟨before, hs, x, hx, hp⟩
    · exact .inr ⟨after, hu, x, hx, hp⟩
  · rintro ⟨⟨⟨before, hs⟩, after, hu⟩, ⟨e, he, x, hx, hp⟩ | ⟨e, he, x, hx, hp⟩⟩
    · exact ⟨e, after, he, hu, x, List.mem_append_left after hx, hp⟩
    · exact ⟨before, e, hs, he, x, List.mem_append_right before hx, hp⟩

theorem commits_both :
    Commits P (both s u) ↔ (MaySucceed s ∧ MaySucceed u) ∧ (Commits P s ∨ Commits P u) := by
  rw [← exists_append_iff]
  constructor
  · rintro ⟨effects, h, hx⟩
    obtain ⟨before, after, hs, hu, rfl⟩ := done_mem_both.mp h
    exact ⟨before, after, hs, hu, hx⟩
  · rintro ⟨before, after, hs, hu, hx⟩
    exact ⟨before ++ after, done_mem_both.mpr ⟨before, after, hs, hu, rfl⟩, hx⟩

theorem maySucceed_untilFailure :
    MaySucceed (untilFailure s u) ↔ MayFail s ∨ (MaySucceed s ∧ MaySucceed u) := by
  constructor
  · rintro ⟨effects, h⟩
    rcases done_mem_untilFailure.mp h with ⟨hf, -⟩ | ⟨before, after, hs, hu, -⟩
    · exact .inl hf
    · exact .inr ⟨⟨before, hs⟩, after, hu⟩
  · rintro (hf | ⟨⟨before, hs⟩, after, hu⟩)
    · exact ⟨[], done_mem_untilFailure.mpr (.inl ⟨hf, rfl⟩)⟩
    · exact ⟨before ++ after, done_mem_untilFailure.mpr (.inr ⟨before, after, hs, hu, rfl⟩)⟩

theorem commits_untilFailure :
    Commits P (untilFailure s u) ↔ (MaySucceed s ∧ MaySucceed u) ∧ (Commits P s ∨ Commits P u) := by
  rw [← exists_append_iff]
  constructor
  · rintro ⟨effects, h, x, hx, hp⟩
    rcases done_mem_untilFailure.mp h with ⟨-, rfl⟩ | ⟨before, after, hs, hu, rfl⟩
    · cases hx
    · exact ⟨before, after, hs, hu, x, hx, hp⟩
  · rintro ⟨before, after, hs, hu, hx⟩
    exact ⟨before ++ after, done_mem_untilFailure.mpr (.inr ⟨before, after, hs, hu, rfl⟩), hx⟩

theorem maySucceed_absorb : MaySucceed (absorb s) ↔ MayFail s ∨ MaySucceed s := by
  constructor
  · rintro ⟨effects, h⟩
    rcases done_mem_absorb.mp h with h | ⟨hf, -⟩
    · exact .inr ⟨effects, h⟩
    · exact .inl hf
  · rintro (hf | ⟨effects, h⟩)
    · exact ⟨[], done_mem_absorb.mpr (.inr ⟨hf, rfl⟩)⟩
    · exact ⟨effects, done_mem_absorb.mpr (.inl h)⟩

theorem commits_absorb : Commits P (absorb s) ↔ Commits P s := by
  constructor
  · rintro ⟨effects, h, x, hx, hp⟩
    rcases done_mem_absorb.mp h with h | ⟨-, rfl⟩
    · exact ⟨effects, h, x, hx, hp⟩
    · cases hx
  · rintro ⟨effects, h, hx⟩
    exact ⟨effects, done_mem_absorb.mpr (.inl h), hx⟩

theorem maySucceed_orElse :
    MaySucceed (orElse s u) ↔ MaySucceed s ∨ (MayFail s ∧ MaySucceed u) := by
  constructor
  · rintro ⟨effects, h⟩
    rcases done_mem_orElse.mp h with h | ⟨hf, h⟩
    · exact .inl ⟨effects, h⟩
    · exact .inr ⟨hf, effects, h⟩
  · rintro (⟨effects, h⟩ | ⟨hf, effects, h⟩)
    · exact ⟨effects, done_mem_orElse.mpr (.inl h)⟩
    · exact ⟨effects, done_mem_orElse.mpr (.inr ⟨hf, h⟩)⟩

theorem commits_orElse :
    Commits P (orElse s u) ↔ Commits P s ∨ (MayFail s ∧ Commits P u) := by
  constructor
  · rintro ⟨effects, h, hx⟩
    rcases done_mem_orElse.mp h with h | ⟨hf, h⟩
    · exact .inl ⟨effects, h, hx⟩
    · exact .inr ⟨hf, effects, h, hx⟩
  · rintro (⟨effects, h, hx⟩ | ⟨hf, effects, h, hx⟩)
    · exact ⟨effects, done_mem_orElse.mpr (.inl h), hx⟩
    · exact ⟨effects, done_mem_orElse.mpr (.inr ⟨hf, h⟩), hx⟩

theorem mayFail_append : MayFail (s ++ u) ↔ MayFail s ∨ MayFail u := List.mem_append

theorem maySucceed_append : MaySucceed (s ++ u) ↔ MaySucceed s ∨ MaySucceed u := by
  simp only [MaySucceed, List.mem_append, exists_or]

theorem commits_append : Commits P (s ++ u) ↔ Commits P s ∨ Commits P u := by
  simp only [Commits, List.mem_append, or_and_right, exists_or]

end Outcome
