import RuntimeTemplates.Lib.Descent
import RuntimeTemplates.Runtime.Carried

/-!
# RuntimeTemplates.Runtime.Fuzzer

The filter of the templates' fuzzers: which calls a random input may make.

* `recursiveCallFilter`: the filter, over the index of the sender and `MaxCandidates`.
* `Forbidden`: the calls that the filter is there to keep out: changes of the code, of the storage
  under the runtime and of the issuance, more candidates than there may be, and `Sudo` by any
  account but the first.
* `followed`, `hidden`: the calls that a wrapper carries, if the filter has an arm for the wrapper,
  and if it has none.
* `recursiveCallFilter_iff_followed`: it keeps them out as far as it follows.
* `filter_sound_iff`: when an accepted call has no forbidden one inside, at any depth.
-/

namespace RuntimeTemplates
namespace Runtime

variable {t : Template}

/-! ## The filter -/

section Filter

variable (maxCandidates : UInt32) (origin : Nat)

/-- The arms of the filter that do not recurse. -/
def restrictions : RuntimeCall t → Bool
  | .sudo _ => if origin != 0 then false else true
  | .system .setCode => false
  | .system .killPrefix => false
  | .collatorSelection (.setDesiredCandidates max) => max < maxCandidates
  | .balances .forceAdjustTotalIssuance => false
  | _ => true

mutual

def recursiveCallFilter : RuntimeCall t → Bool
  -- a sender that the guard of the arm keeps out comes to the restrictions
  | .sudo (.sudo call) =>
    if origin == 0 then recursiveCallFilter call
    else restrictions maxCandidates origin (.sudo (.sudo call))
  | .sudo (.sudoUncheckedWeight call) =>
    if origin == 0 then recursiveCallFilter call
    else restrictions maxCandidates origin (.sudo (.sudoUncheckedWeight call))
  | .utility (.withWeight call) => recursiveCallFilter call
  | .utility (.dispatchAs _ call) => recursiveCallFilter call
  | .utility (.asDerivative _ call) => recursiveCallFilter call
  | .utility (.forceBatch calls) => recursiveCallsFilter calls
  | .utility (.batch calls) => recursiveCallsFilter calls
  | .utility (.batchAll calls) => recursiveCallsFilter calls
  | .scheduler (.scheduleNamedAfter call) => recursiveCallFilter call
  | .scheduler (.schedule call) => recursiveCallFilter call
  | .scheduler (.scheduleNamed call) => recursiveCallFilter call
  | .scheduler (.scheduleAfter call) => recursiveCallFilter call
  | .multisig (.asMultiThreshold1 _ call) => recursiveCallFilter call
  | .multisig (.asMulti _ _ _ call _) => recursiveCallFilter call
  | .whitelist (.dispatchWhitelistedCallWithPreimage call) => recursiveCallFilter call
  | call => restrictions maxCandidates origin call

/-- `calls.iter().all(|call| recursive_call_filter(call, origin))`. -/
def recursiveCallsFilter : List (RuntimeCall t) → Bool
  | [] => true
  | call :: calls => recursiveCallFilter call && recursiveCallsFilter calls

end

inductive Forbidden : RuntimeCall t → Prop where
  | setCode : Forbidden (.system .setCode)
  | killPrefix : Forbidden (.system .killPrefix)
  | forceAdjustTotalIssuance : Forbidden (.balances .forceAdjustTotalIssuance)
  | setDesiredCandidates {max : UInt32} :
      ¬ max < maxCandidates → Forbidden (.collatorSelection (.setDesiredCandidates max))
  | sudo {c : SudoCall t.AccountId (RuntimeCall t)} : origin ≠ 0 → Forbidden (.sudo c)

theorem restrictions_iff (c : RuntimeCall t) :
    restrictions maxCandidates origin c = true ↔ ¬ Forbidden maxCandidates origin c := by
  constructor
  · intro h hforbidden
    cases hforbidden with
    | setDesiredCandidates hmax => exact hmax (of_decide_eq_true h)
    | «sudo» horigin =>
      rw [restrictions, if_pos (bne_iff_ne.mpr horigin)] at h
      cases h
    | _ => cases h
  · intro h
    unfold restrictions
    split
    · by_cases horigin : origin = 0
      · rw [horigin]
        rfl
      · exact absurd (.sudo horigin) h
    · exact absurd .setCode h
    · exact absurd .killPrefix h
    · rename_i max
      by_cases hmax : max < maxCandidates
      · exact decide_eq_true hmax
      · exact absurd (.setDesiredCandidates hmax) h
    · exact absurd .forceAdjustTotalIssuance h
    · rfl

end Filter

/-! ## The calls that the filter looks at -/

def hidden : RuntimeCall t → List (RuntimeCall t)
  | .sudo (.sudoAs _ call) => [call]
  | .utility (.ifElse main fallback) => [main, fallback]
  | .utility (.dispatchAsFallible _ call) => [call]
  | .proxy c => c.carried
  | _ => []

def followed : RuntimeCall t → List (RuntimeCall t)
  | .sudo (.sudoAs _ _) => []
  | .utility (.ifElse _ _) => []
  | .utility (.dispatchAsFallible _ _) => []
  | .proxy _ => []
  | c => carried c

theorem mem_carried (c d : RuntimeCall t) : d ∈ carried c ↔ d ∈ followed c ∨ d ∈ hidden c := by
  cases c with
  | utility c => cases c <;> simp [carried, UtilityCall.carried, followed, hidden]
  | «sudo» c => cases c <;> simp [carried, SudoCall.carried, followed, hidden]
  | proxy c => simp [carried, followed, hidden]
  | _ => simp [carried, followed, hidden]

/-! ## How far the filter sees -/

section Soundness

variable (maxCandidates : UInt32) (origin : Nat)

theorem recursiveCallsFilter_iff (calls : List (RuntimeCall t)) :
    recursiveCallsFilter maxCandidates origin calls = true ↔
      ∀ c ∈ calls, recursiveCallFilter maxCandidates origin c = true := by
  induction calls with
  | nil => simp [recursiveCallsFilter]
  | cons c calls ih =>
    rw [recursiveCallsFilter, Bool.and_eq_true, ih, List.forall_mem_cons]

theorem recursiveCallFilter_iff (c : RuntimeCall t) :
    recursiveCallFilter maxCandidates origin c = true ↔
      ¬ Forbidden maxCandidates origin c ∧
        ∀ d ∈ followed c, recursiveCallFilter maxCandidates origin d = true := by
  rw [← restrictions_iff]
  cases c with
  | utility c =>
    cases c with
    | batch calls =>
      simp [recursiveCallFilter, recursiveCallsFilter_iff, restrictions, followed, carried,
        UtilityCall.carried]
    | batchAll calls =>
      simp [recursiveCallFilter, recursiveCallsFilter_iff, restrictions, followed, carried,
        UtilityCall.carried]
    | forceBatch calls =>
      simp [recursiveCallFilter, recursiveCallsFilter_iff, restrictions, followed, carried,
        UtilityCall.carried]
    | _ => simp [recursiveCallFilter, restrictions, followed, carried, UtilityCall.carried]
  | «sudo» c =>
    by_cases horigin : origin = 0
    · cases c <;>
        simp [recursiveCallFilter, restrictions, followed, carried, SudoCall.carried, horigin]
    · cases c <;>
        simp [recursiveCallFilter, restrictions, followed, carried, SudoCall.carried, horigin]
  | scheduler c =>
    cases c <;> simp [recursiveCallFilter, restrictions, followed, carried, SchedulerCall.carried]
  | multisig c =>
    cases c <;> simp [recursiveCallFilter, restrictions, followed, carried, MultisigCall.carried]
  | whitelist c =>
    cases c <;> simp [recursiveCallFilter, restrictions, followed, carried, WhitelistCall.carried]
  | _ => simp [recursiveCallFilter, followed, carried]

theorem recursiveCallFilter_iff_followed (c : RuntimeCall t) :
    recursiveCallFilter maxCandidates origin c = true ↔
      ∀ d, Descent.Inside followed c d → ¬ Forbidden maxCandidates origin d := by
  refine Descent.walk_iff sizeOf ?_ (recursiveCallFilter_iff maxCandidates origin) c
  intro a b hb
  exact sizeOf_carried ((mem_carried a b).mpr (.inl hb))

/-- No forbidden call lies inside an accepted one exactly if the filter comes across a forbidden
call, and so refuses, or none lies below the wrappers it comes across without an arm for them. -/
theorem filter_sound_iff (c : RuntimeCall t) :
    (recursiveCallFilter maxCandidates origin c = true →
        ∀ d, Descent.Inside carried c d → ¬ Forbidden maxCandidates origin d) ↔
      (∃ d, Descent.Inside followed c d ∧ Forbidden maxCandidates origin d) ∨
        ∀ w, Descent.Inside followed c w → ∀ e ∈ hidden w,
          ∀ d, Descent.Inside carried e d → ¬ Forbidden maxCandidates origin d := by
  have h := Descent.walk_sound_iff mem_carried
    (recursiveCallFilter_iff_followed maxCandidates origin) c
  simpa only [not_not] using h

end Soundness

theorem filter_not_sound :
    ¬ (recursiveCallFilter 100 3 (.proxy (.proxy 7 none (.system .setCode)) : RuntimeCall .evm) =
          true →
        ∀ d, Descent.Inside carried
            (.proxy (.proxy 7 none (.system .setCode)) : RuntimeCall .evm) d →
          ¬ Forbidden 100 3 d) ∧
      ¬ (recursiveCallFilter 100 3
          (.proxy (.proxy 7 none (.system .setCode)) : RuntimeCall .generic) = true →
        ∀ d, Descent.Inside carried
            (.proxy (.proxy 7 none (.system .setCode)) : RuntimeCall .generic) d →
          ¬ Forbidden 100 3 d) := by
  have hinside : ∀ (t : Template) (real : t.AccountId), Descent.Inside carried
      (.proxy (.proxy real none (.system .setCode)) : RuntimeCall t) (.system .setCode) := by
    intro t real
    exact Descent.inside_head (List.mem_singleton.mpr rfl) (Descent.inside_refl _)
  constructor
  · intro h
    exact h (by decide) _ (hinside .evm 7) .setCode
  · intro h
    exact h (by decide) _ (hinside .generic 7) .setCode

end Runtime
end RuntimeTemplates
