import Mathlib.Tactic.Tauto
import RuntimeTemplates.Lib.Outcomes

/-!
# RuntimeTemplates.Lib.Forecast

What may happen, computed from the parts of a call without going through their outcomes.

* `Forecast`: whether a call may fail, whether it may succeed, and the effects it may leave.
  `Forecast.Fits` has one rule for each combinator.
* `Interpretation`: the combinators over any results. What is defined over it is read once as the
  list of outcomes (`collect`) and once as a forecast (`predict`); `predict_simulates_collect` makes
  a forecast by the structure of a call exact.
-/

/-- Whether a call may fail, whether it may succeed, and the effects that it may leave. -/
structure Forecast (ε : Type*) where
  fails : Bool
  succeeds : Bool
  effects : List ε

namespace Forecast

variable {ε : Type*}

def both (a b : Forecast ε) : Forecast ε where
  fails := a.fails || (a.succeeds && b.fails)
  succeeds := a.succeeds && b.succeeds
  effects := if a.succeeds && b.succeeds then a.effects ++ b.effects else []

def untilFailure (a b : Forecast ε) : Forecast ε where
  fails := a.succeeds && b.fails
  succeeds := a.fails || (a.succeeds && b.succeeds)
  effects := if a.succeeds && b.succeeds then a.effects ++ b.effects else []

def absorb (a : Forecast ε) : Forecast ε where
  fails := false
  succeeds := a.fails || a.succeeds
  effects := a.effects

def orElse (a b : Forecast ε) : Forecast ε where
  fails := a.fails && b.fails
  succeeds := a.succeeds || (a.fails && b.succeeds)
  effects := if a.fails then a.effects ++ b.effects else a.effects

/-- Either of two calls, by a choice of the state. -/
def either (a b : Forecast ε) : Forecast ε where
  fails := a.fails || b.fails
  succeeds := a.succeeds || b.succeeds
  effects := a.effects ++ b.effects

open Outcome

/-- The forecast says exactly what is possible. -/
structure Fits (a : Forecast ε) (s : List (Outcome ε)) : Prop where
  fails : MayFail s ↔ a.fails = true
  succeeds : MaySucceed s ↔ a.succeeds = true
  commits : ∀ P, Commits P s ↔ ∃ x ∈ a.effects, P x

variable {a b : Forecast ε} {s u : List (Outcome ε)}

theorem Fits.succeeds_of_effects (h : a.Fits s) {x : ε} (hx : x ∈ a.effects) :
    a.succeeds = true := by
  have hc : Commits (fun _ => True) s := (h.commits _).mpr ⟨x, hx, trivial⟩
  exact h.succeeds.mp hc.maySucceed

theorem exists_mem_append {P : ε → Prop} {xs ys : List ε} :
    (∃ x ∈ xs ++ ys, P x) ↔ (∃ x ∈ xs, P x) ∨ ∃ x ∈ ys, P x := by
  simp only [List.mem_append, or_and_right, exists_or]

theorem not_exists_mem_nil {P : ε → Prop} : ¬ ∃ x ∈ ([] : List ε), P x := by
  rintro ⟨x, hx, -⟩
  cases hx

/-- The effects of two calls in a row, where both can be done. -/
theorem exists_row_iff (ha : a.Fits s) (hb : b.Fits u) (P : ε → Prop) :
    (MaySucceed s ∧ MaySucceed u) ∧ (Commits P s ∨ Commits P u) ↔
      ∃ x ∈ if a.succeeds && b.succeeds then a.effects ++ b.effects else [], P x := by
  rw [ha.succeeds, hb.succeeds, ha.commits, hb.commits, ← Bool.and_eq_true]
  split
  · rename_i h
    rw [exists_mem_append]
    exact and_iff_right h
  · rename_i h
    exact iff_of_false (fun hc => h hc.1) not_exists_mem_nil

theorem Fits.both (ha : a.Fits s) (hb : b.Fits u) : (a.both b).Fits (Outcome.both s u) where
  fails := by
    rw [MayFail, failed_mem_both, ← MayFail, ← MayFail, ha.fails, ha.succeeds, hb.fails]
    simp [Forecast.both]
  succeeds := by
    rw [maySucceed_both, ha.succeeds, hb.succeeds]
    simp [Forecast.both]
  commits P := by
    rw [commits_both]
    exact exists_row_iff ha hb P

theorem Fits.untilFailure (ha : a.Fits s) (hb : b.Fits u) :
    (a.untilFailure b).Fits (Outcome.untilFailure s u) where
  fails := by
    rw [MayFail, failed_mem_untilFailure, ← MayFail, ha.succeeds, hb.fails]
    simp [Forecast.untilFailure]
  succeeds := by
    rw [maySucceed_untilFailure, ha.fails, ha.succeeds, hb.succeeds]
    simp [Forecast.untilFailure]
  commits P := by
    rw [commits_untilFailure]
    exact exists_row_iff ha hb P

theorem Fits.absorb (ha : a.Fits s) : a.absorb.Fits (Outcome.absorb s) where
  fails := iff_of_false failed_not_mem_absorb Bool.false_ne_true
  succeeds := by
    rw [maySucceed_absorb, ha.fails, ha.succeeds]
    simp [Forecast.absorb]
  commits P := by
    rw [commits_absorb]
    exact ha.commits P

theorem Fits.orElse (ha : a.Fits s) (hb : b.Fits u) : (a.orElse b).Fits (Outcome.orElse s u) where
  fails := by
    rw [MayFail, failed_mem_orElse, ← MayFail, ← MayFail, ha.fails, hb.fails]
    simp [Forecast.orElse]
  succeeds := by
    rw [maySucceed_orElse, ha.fails, ha.succeeds, hb.succeeds]
    simp [Forecast.orElse]
  commits P := by
    rw [commits_orElse, ha.fails, ha.commits, hb.commits, Forecast.orElse]
    cases a.fails with
    | false => simp
    | true => rw [if_pos rfl, exists_mem_append, and_iff_right rfl]

theorem Fits.either (ha : a.Fits s) (hb : b.Fits u) : (a.either b).Fits (s ++ u) where
  fails := by
    rw [mayFail_append, ha.fails, hb.fails]
    simp [Forecast.either]
  succeeds := by
    rw [maySucceed_append, ha.succeeds, hb.succeeds]
    simp [Forecast.either]
  commits P := by
    rw [commits_append, ha.commits, hb.commits]
    exact exists_mem_append.symm

/-! ## Single outcomes and lists of them -/

def ofFailed : Forecast ε := ⟨true, false, []⟩

def ofDone (effects : List ε) : Forecast ε := ⟨false, true, effects⟩

/-- The forecast of outcomes that are listed. -/
def ofOutcomes : List (Outcome ε) → Forecast ε
  | [] => ⟨false, false, []⟩
  | failed :: s => ofFailed.either (ofOutcomes s)
  | done effects :: s => (ofDone effects).either (ofOutcomes s)

theorem fits_nil : (⟨false, false, []⟩ : Forecast ε).Fits [] where
  fails := by simp [MayFail]
  succeeds := by simp [MaySucceed]
  commits P := by simp [Commits]

theorem fits_failed : (ofFailed : Forecast ε).Fits [failed] where
  fails := by simp [MayFail, ofFailed]
  succeeds := by simp [MaySucceed, ofFailed]
  commits P := by simp [Commits, ofFailed]

theorem fits_done (effects : List ε) : (ofDone effects).Fits [done effects] where
  fails := by simp [MayFail, ofDone]
  succeeds := by simp [MaySucceed, ofDone]
  commits P := by simp [Commits, ofDone]

theorem fits_ofOutcomes (s : List (Outcome ε)) : (ofOutcomes s).Fits s := by
  induction s with
  | nil => exact fits_nil
  | cons o s ih =>
    cases o with
    | failed => exact fits_failed.either ih
    | done effects => exact (fits_done effects).either ih

end Forecast

/-! ## Interpretations -/

/-- The combinators, over results of type `R`. -/
structure Interpretation (ε R : Type*) where
  ofOutcomes : List (Outcome ε) → R
  both : R → R → R
  untilFailure : R → R → R
  absorb : R → R
  orElse : R → R → R
  either : R → R → R

namespace Interpretation

variable {ε R S : Type*}

/-- A check before the call, which fails it. -/
def require (I : Interpretation ε R) (check : Bool) (call : R) : R :=
  if check then call else I.ofOutcomes [.failed]

def collect : Interpretation ε (List (Outcome ε)) where
  ofOutcomes s := s
  both := Outcome.both
  untilFailure := Outcome.untilFailure
  absorb := Outcome.absorb
  orElse := Outcome.orElse
  either s u := s ++ u

def predict : Interpretation ε (Forecast ε) where
  ofOutcomes := Forecast.ofOutcomes
  both := Forecast.both
  untilFailure := Forecast.untilFailure
  absorb := Forecast.absorb
  orElse := Forecast.orElse
  either := Forecast.either

/-- Related parts have related wholes. -/
structure Simulates (I : Interpretation ε R) (J : Interpretation ε S) (rel : R → S → Prop) :
    Prop where
  ofOutcomes : ∀ s, s ≠ [] → rel (I.ofOutcomes s) (J.ofOutcomes s)
  both : ∀ {a b s u}, rel a s → rel b u → rel (I.both a b) (J.both s u)
  untilFailure : ∀ {a b s u}, rel a s → rel b u → rel (I.untilFailure a b) (J.untilFailure s u)
  absorb : ∀ {a s}, rel a s → rel (I.absorb a) (J.absorb s)
  orElse : ∀ {a b s u}, rel a s → rel b u → rel (I.orElse a b) (J.orElse s u)
  either : ∀ {a b s u}, rel a s → rel b u → rel (I.either a b) (J.either s u)

theorem predict_simulates_collect :
    Simulates (predict : Interpretation ε _) collect Forecast.Fits where
  ofOutcomes s _ := Forecast.fits_ofOutcomes s
  both := Forecast.Fits.both
  untilFailure := Forecast.Fits.untilFailure
  absorb := Forecast.Fits.absorb
  orElse := Forecast.Fits.orElse
  either := Forecast.Fits.either

/-- Something is possible for a call, if it is for each call in it. -/
theorem predict_possible :
    Simulates (predict : Interpretation ε _) predict fun a _ => a.fails = true ∨ a.succeeds = true where
  ofOutcomes s hs := by
    cases s with
    | nil => exact absurd rfl hs
    | cons o s => cases o <;> simp [predict, Forecast.ofOutcomes, Forecast.either, Forecast.ofFailed,
        Forecast.ofDone]
  both ha hb := by
    simp only [predict, Forecast.both, Bool.or_eq_true, Bool.and_eq_true]
    tauto
  untilFailure ha hb := by
    simp only [predict, Forecast.untilFailure, Bool.or_eq_true, Bool.and_eq_true]
    tauto
  absorb ha := by
    simp only [predict, Forecast.absorb, Bool.or_eq_true]
    tauto
  orElse ha hb := by
    simp only [predict, Forecast.orElse, Bool.or_eq_true, Bool.and_eq_true]
    tauto
  either ha hb := by
    simp only [predict, Forecast.either, Bool.or_eq_true]
    tauto

variable {I : Interpretation ε R} {J : Interpretation ε S} {rel : R → S → Prop}

theorem Simulates.require (h : Simulates I J rel) {a : R} {s : S} (ha : rel a s) (check : Bool) :
    rel (I.require check a) (J.require check s) := by
  cases check with
  | true => exact ha
  | false => exact h.ofOutcomes [.failed] (List.cons_ne_nil _ _)

/-! ## The effects of a forecast -/

section Effects

variable {a b : Forecast ε} {x : ε}

@[simp] theorem mem_predict_ofOutcomes {s : List (Outcome ε)} :
    x ∈ (predict.ofOutcomes s).effects ↔ ∃ effects, .done effects ∈ s ∧ x ∈ effects := by
  have h := (Forecast.fits_ofOutcomes s).commits (fun y => y = x)
  simp only [Outcome.Commits, exists_eq_right] at h
  exact h.symm

@[simp] theorem mem_predict_either :
    x ∈ (predict.either a b).effects ↔ x ∈ a.effects ∨ x ∈ b.effects := by
  simp [predict, Forecast.either]

@[simp] theorem mem_predict_absorb : x ∈ (predict.absorb a).effects ↔ x ∈ a.effects := Iff.rfl

@[simp] theorem mem_predict_orElse :
    x ∈ (predict.orElse a b).effects ↔ x ∈ a.effects ∨ (a.fails = true ∧ x ∈ b.effects) := by
  cases hf : a.fails <;> simp [predict, Forecast.orElse, hf]

@[simp] theorem mem_predict_both :
    x ∈ (predict.both a b).effects ↔
      (a.succeeds = true ∧ b.succeeds = true) ∧ (x ∈ a.effects ∨ x ∈ b.effects) := by
  cases ha : a.succeeds <;> cases hb : b.succeeds <;> simp [predict, Forecast.both, ha, hb]

@[simp] theorem mem_predict_untilFailure :
    x ∈ (predict.untilFailure a b).effects ↔
      (a.succeeds = true ∧ b.succeeds = true) ∧ (x ∈ a.effects ∨ x ∈ b.effects) := by
  cases ha : a.succeeds <;> cases hb : b.succeeds <;>
    simp [predict, Forecast.untilFailure, ha, hb]

@[simp] theorem mem_predict_require {check : Bool} :
    x ∈ (predict.require check a).effects ↔ check = true ∧ x ∈ a.effects := by
  cases check with
  | true => simp [require]
  | false => simp [require]

end Effects

end Interpretation
