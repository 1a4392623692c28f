import RuntimeTemplates.Runtime.Dispatch
import RuntimeTemplates.Runtime.Funds

/-!
# RuntimeTemplates.Runtime.Reach

What a call moves through the calls it dispatches.

* `reached`: the calls that one call dispatches, each with its origin.
* `mem_runUtility` and the lemmas after it: what a pallet's calls move, they move through these.
* `mem_payers`: a call moves funds itself, or through a call that it dispatches.
-/

namespace RuntimeTemplates
namespace Runtime

open Governance Xcm

variable {t : Template}

/-! ## Calls that a call dispatches -/

section Reached

variable (env : Environment t)

def admitted (o : Origin t) (c : RuntimeCall t) : List (Origin t × RuntimeCall t) :=
  if o.filterCall env c then [(o, c)] else []

/-- A batch goes on past the calls that can succeed. -/
def batchReached (o : Origin t) : List (RuntimeCall t) → List (Origin t × RuntimeCall t)
  | [] => []
  | c :: cs => admitted env o c ++ if (forecast env o c).succeeds then batchReached o cs else []

def mayBeSudo : t.RuntimeOrigin → Bool
  | .system .root => true
  | .system (.signed _) => true
  | _ => false

def utilityReached (o : Origin t) : UtilityCall t.RuntimeOrigin (RuntimeCall t) →
    List (Origin t × RuntimeCall t)
  | .batch calls =>
    if !isNone o.caller && calls.length ≤ env.batchedCallsLimit then batchReached env o calls
    else []
  | .asDerivative index c =>
    match signer o.caller with
    | some who => admitted env { o with caller := .signed (env.derivativeAccountId who index) } c
    | none => []
  | .batchAll calls =>
    -- one call that cannot succeed undoes the others
    if (!isNone o.caller && calls.length ≤ env.batchedCallsLimit) &&
        calls.all fun c => (forecast env (batchAllOrigin o) c).succeeds then
      calls.map fun c => (batchAllOrigin o, c)
    else []
  | .dispatchAs asOrigin c => if isRoot o.caller then [(.fresh asOrigin, c)] else []
  | .forceBatch calls =>
    if !isNone o.caller && calls.length ≤ env.batchedCallsLimit then
      calls.flatMap (admitted env o)
    else []
  | .withWeight c => if isRoot o.caller then [(.fresh .root, c)] else []
  | .ifElse main fallback =>
    if !isNone o.caller then
      admitted env o main ++ if (forecast env o main).fails then admitted env o fallback else []
    else []
  | .dispatchAsFallible asOrigin c => if isRoot o.caller then [(.fresh asOrigin, c)] else []

def sudoReached (o : Origin t) : SudoCall t.AccountId (RuntimeCall t) →
    List (Origin t × RuntimeCall t)
  | .sudo c => if mayBeSudo o.caller then [(.fresh .root, c)] else []
  | .sudoUncheckedWeight c => if mayBeSudo o.caller then [(.fresh .root, c)] else []
  | .sudoAs who c => if mayBeSudo o.caller then [(.fresh (.signed who), c)] else []
  | .other _ => []

/-- The types a proxy may have that was found by its delegate, or by its type too. -/
def proxyTypes (forceProxyType : Option ProxyType) : List ProxyType :=
  match forceProxyType with
  | some ty => [ty]
  | none => [.any, .nonTransfer, .cancelProxy, .collator]

/-- The call of a proxy, for each type the proxy may have. -/
def proxiedReached (delegate real : t.AccountId) (forceProxyType : Option ProxyType)
    (c : RuntimeCall t) : List (Origin t × RuntimeCall t) :=
  if delegate != real then
    (proxyTypes forceProxyType).flatMap fun ty => admitted env (.proxied ty real) c
  else []

def proxyReached (o : Origin t) : ProxyCall t.AccountId (RuntimeCall t) →
    List (Origin t × RuntimeCall t)
  | .proxy real forceProxyType c =>
    match signer o.caller with
    | some who => proxiedReached env who real forceProxyType c
    | none => []
  | .proxyAnnounced delegate real forceProxyType c =>
    match signer o.caller with
    | some _ => proxiedReached env delegate real forceProxyType c
    | none => []
  | _ => []

def multisigReached (o : Origin t) : MultisigCall t.AccountId (RuntimeCall t) →
    List (Origin t × RuntimeCall t)
  | .asMultiThreshold1 others c =>
    match signer o.caller with
    | some who =>
      if env.validSignatories who others then
        admitted env (.fresh (.signed (env.multiAccountId who others 1))) c
      else []
    | none => []
  | .asMulti threshold others maybeTimepoint c maxWeight =>
    match signer o.caller with
    | some who =>
      if (2 ≤ threshold && env.validSignatories who others) &&
          ((maybeTimepoint.isSome && threshold.toNat ≤ others.length + 1) &&
            (env.callWeight c).allLte maxWeight) then
        admitted env (.fresh (.signed (env.multiAccountId who others threshold))) c
      else []
    | none => []
  | .other _ => []

def scheduledReached (o : Origin t) : SchedulerCall (RuntimeCall t) →
    List (Origin t × RuntimeCall t)
  | .schedule c => if isRoot o.caller then [(.fresh .root, c)] else []
  | .scheduleNamed c => if isRoot o.caller then [(.fresh .root, c)] else []
  | .scheduleAfter c => if isRoot o.caller then [(.fresh .root, c)] else []
  | .scheduleNamedAfter c => if isRoot o.caller then [(.fresh .root, c)] else []
  | .other _ => []

def referendaReached (o : Origin t) : ReferendaCall t.RuntimeOrigin (RuntimeCall t) →
    List (Origin t × RuntimeCall t)
  | .submit proposalOrigin c =>
    match signer o.caller with
    | some _ =>
      if (trackFor proposalOrigin).isOk then admitted env (.fresh proposalOrigin) c else []
    | none => []
  | .other _ => []

def Instruction.reached (l : Location) : Instruction (RuntimeCall t) →
    List (Origin t × RuntimeCall t)
  | .withdrawAsset _ => []
  | .transact interior kind c =>
    match transactOrigin t l interior kind with
    | some o => admitted env o c
    | none => []

def messageReached (l : Location) (message : List (Instruction (RuntimeCall t))) :
    List (Origin t × RuntimeCall t) := message.flatMap (Instruction.reached env l)

def polkadotXcmReached (o : Origin t) : PolkadotXcmCall (RuntimeCall t) →
    List (Origin t × RuntimeCall t)
  | .execute message =>
    match t.ensureXcmOrigin o.caller with
    | some l => messageReached env l message
    | none => []
  | _ => []

/-- The calls that a call dispatches where its own checks pass, each with its origin. -/
def reached (o : Origin t) : RuntimeCall t → List (Origin t × RuntimeCall t)
  | .utility c => utilityReached env o c
  | .sudo c => sudoReached o c
  | .proxy c => proxyReached env o c
  | .multisig c => multisigReached env o c
  | .scheduler c => scheduledReached o c
  | .whitelist (.dispatchWhitelistedCallWithPreimage c) =>
    if mayDispatchWhitelisted o.caller then [(.fresh .root, c)] else []
  | .referenda c => referendaReached env o c
  | .polkadotXcm c => polkadotXcmReached env o c
  | _ => []

end Reached

/-! ## What a call moves through the calls it dispatches -/

section Effects

variable (env : Environment t) {p : Payer t.AccountId}

/-- The payers that a forecast finds in a call. -/
def payers (o : Origin t) (c : RuntimeCall t) : List (Payer t.AccountId) :=
  (run .predict env o c).effects

/-- Some call of the list moves funds of `p`. -/
def Through (p : Payer t.AccountId) (l : List (Origin t × RuntimeCall t)) : Prop :=
  ∃ x ∈ l, p ∈ payers env x.1 x.2

@[simp] theorem through_nil : ¬ Through env p [] := by
  rintro ⟨x, hx, -⟩
  cases hx

@[simp] theorem through_singleton (o : Origin t) (c : RuntimeCall t) :
    Through env p [(o, c)] ↔ p ∈ payers env o c := by
  simp [Through]

@[simp] theorem through_cons (x : Origin t × RuntimeCall t) (l : List (Origin t × RuntimeCall t)) :
    Through env p (x :: l) ↔ p ∈ payers env x.1 x.2 ∨ Through env p l := by
  simp [Through]

@[simp] theorem through_append (l l' : List (Origin t × RuntimeCall t)) :
    Through env p (l ++ l') ↔ Through env p l ∨ Through env p l' := by
  simp only [Through, List.mem_append, or_and_right, exists_or]

@[simp] theorem through_ite (b : Bool) (l : List (Origin t × RuntimeCall t)) :
    Through env p (if b = true then l else []) ↔ b = true ∧ Through env p l := by
  cases b <;> simp

@[simp] theorem through_flatMap {α : Type} (l : List α)
    (f : α → List (Origin t × RuntimeCall t)) :
    Through env p (l.flatMap f) ↔ ∃ x ∈ l, Through env p (f x) := by
  simp only [Through, List.mem_flatMap]
  constructor
  · rintro ⟨y, ⟨x, hx, hy⟩, hp⟩
    exact ⟨x, hx, y, hy, hp⟩
  · rintro ⟨x, hx, y, hy, hp⟩
    exact ⟨y, ⟨x, hx, hy⟩, hp⟩

@[simp] theorem through_admitted (o : Origin t) (c : RuntimeCall t) :
    Through env p (admitted env o c) ↔ o.filterCall env c = true ∧ p ∈ payers env o c := by
  rw [admitted, through_ite, through_singleton]

theorem require_run (o : Origin t) (c : RuntimeCall t) :
    Interpretation.require .predict (o.filterCall env c) (run .predict env o c) =
      forecast env o c := rfl

theorem forecast_possible (o : Origin t) (c : RuntimeCall t) :
    (forecast env o c).fails = true ∨ (forecast env o c).succeeds = true :=
  runFiltered_simulates Interpretation.predict_possible env o c

theorem forecast_succeeds {o : Origin t} {c : RuntimeCall t} (hf : o.filterCall env c = true)
    (hp : p ∈ payers env o c) : (forecast env o c).succeeds = true := by
  refine (forecast_fits env o c).succeeds_of_effects ?_ (x := p)
  rw [forecast, runFiltered, Interpretation.mem_predict_require]
  exact ⟨hf, hp⟩

/-- A batch itself always succeeds. -/
theorem runBatch_succeeds (o : Origin t) (calls : List (RuntimeCall t)) :
    (runBatch .predict env o calls).succeeds = true := by
  induction calls with
  | nil => rfl
  | cons c cs ih =>
    have hc := forecast_possible env o c
    have hstep : (runBatch .predict env o (c :: cs)).succeeds =
        ((forecast env o c).fails ||
          ((forecast env o c).succeeds && (runBatch .predict env o cs).succeeds)) := rfl
    rw [hstep, ih, Bool.and_true, Bool.or_eq_true]
    exact hc

theorem mem_runBatch (o : Origin t) (calls : List (RuntimeCall t)) :
    p ∈ (runBatch .predict env o calls).effects ↔ Through env p (batchReached env o calls) := by
  induction calls with
  | nil => simp [runBatch, batchReached]
  | cons c cs ih =>
    rw [runBatch, Interpretation.mem_predict_untilFailure, Interpretation.mem_predict_require,
      batchReached, through_append, through_admitted, through_ite, ih]
    have hrest := runBatch_succeeds env o cs
    rw [require_run]
    constructor
    · rintro ⟨⟨hs, -⟩, h | h⟩
      · exact .inl h
      · exact .inr ⟨hs, h⟩
    · rintro (⟨hf, hp⟩ | ⟨hs, h⟩)
      · exact ⟨⟨forecast_succeeds env hf hp, hrest⟩, .inl ⟨hf, hp⟩⟩
      · exact ⟨⟨hs, hrest⟩, .inr h⟩

theorem filterCall_of_succeeds {o : Origin t} {c : RuntimeCall t}
    (h : (forecast env o c).succeeds = true) : o.filterCall env c = true := by
  unfold forecast runFiltered Interpretation.require at h
  split at h
  · assumption
  · cases h

theorem runBatchAll_succeeds (o : Origin t) (calls : List (RuntimeCall t)) :
    (runBatchAll .predict env o calls).succeeds =
      calls.all fun c => (forecast env o c).succeeds := by
  induction calls with
  | nil => rfl
  | cons c cs ih => rw [List.all_cons, ← ih]; rfl

theorem mem_runBatchAll (o : Origin t) (calls : List (RuntimeCall t)) :
    p ∈ (runBatchAll .predict env o calls).effects ↔
      (calls.all fun c => (forecast env o c).succeeds) = true ∧
        Through env p (calls.map fun c => (o, c)) := by
  induction calls with
  | nil => simp [runBatchAll]
  | cons c cs ih =>
    rw [runBatchAll, Interpretation.mem_predict_both, Interpretation.mem_predict_require,
      runBatchAll_succeeds, ih, List.all_cons, Bool.and_eq_true, List.map_cons, through_cons]
    rw [require_run]
    constructor
    · rintro ⟨hs, ⟨-, h⟩ | ⟨-, h⟩⟩
      · exact ⟨hs, .inl h⟩
      · exact ⟨hs, .inr h⟩
    · rintro ⟨hs, h | h⟩
      · exact ⟨hs, .inl ⟨filterCall_of_succeeds env hs.1, h⟩⟩
      · exact ⟨hs, .inr ⟨hs.2, h⟩⟩

theorem runForceBatch_succeeds (o : Origin t) (calls : List (RuntimeCall t)) :
    (runForceBatch .predict env o calls).succeeds = true := by
  induction calls with
  | nil => rfl
  | cons c cs ih =>
    have hc := forecast_possible env o c
    have hstep : (runForceBatch .predict env o (c :: cs)).succeeds =
        (((forecast env o c).fails || (forecast env o c).succeeds) &&
          (runForceBatch .predict env o cs).succeeds) := rfl
    rw [hstep, ih, Bool.and_true, Bool.or_eq_true]
    exact hc

/-- A forced batch runs each of its calls, whatever becomes of the others. -/
theorem mem_runForceBatch (o : Origin t) (calls : List (RuntimeCall t)) :
    p ∈ (runForceBatch .predict env o calls).effects ↔
      Through env p (calls.flatMap (admitted env o)) := by
  induction calls with
  | nil => simp [runForceBatch]
  | cons c cs ih =>
    have hc : (Interpretation.predict.absorb (forecast env o c)).succeeds = true :=
      Bool.or_eq_true_iff.mpr (forecast_possible env o c)
    have hrest := runForceBatch_succeeds env o cs
    rw [runForceBatch, Interpretation.mem_predict_both, Interpretation.mem_predict_absorb,
      Interpretation.mem_predict_require, List.flatMap_cons, through_append, through_admitted, ih]
    exact and_iff_right ⟨hc, hrest⟩

/-! ### The wrappers -/

theorem mem_sudoAuthorized (caller : t.RuntimeOrigin) (r : Forecast (Payer t.AccountId)) :
    p ∈ (sudoAuthorized .predict caller r).effects ↔ mayBeSudo caller = true ∧ p ∈ r.effects := by
  unfold sudoAuthorized mayBeSudo
  split <;> simp

theorem mem_doProxy (delegate real : t.AccountId) (forceProxyType : Option ProxyType)
    (call : ProxyType → Forecast (Payer t.AccountId)) :
    p ∈ (doProxy .predict delegate real forceProxyType call).effects ↔
      (delegate != real) = true ∧ ∃ ty ∈ proxyTypes forceProxyType, p ∈ (call ty).effects := by
  rw [doProxy, Interpretation.mem_predict_require, Interpretation.mem_predict_either]
  cases forceProxyType with
  | some ty => simp [ofProxyType, proxyTypes]
  | none => simp [ofProxyType, proxyTypes]

theorem mem_scheduled (caller : t.RuntimeOrigin) (r : Forecast (Payer t.AccountId)) :
    p ∈ (scheduled .predict caller r).effects ↔ isRoot caller = true ∧ p ∈ r.effects := by
  simp [scheduled]

/-- The call of a proxy, filtered with the type of the proxy. -/
theorem mem_doProxy_filtered (delegate real : t.AccountId) (forceProxyType : Option ProxyType)
    (c : RuntimeCall t) :
    p ∈ (doProxy .predict delegate real forceProxyType fun ty =>
        forecast env (.proxied ty real) c).effects ↔
      Through env p (proxiedReached env delegate real forceProxyType c) := by
  simp only [mem_doProxy, proxiedReached, through_ite, through_flatMap, through_admitted,
    ← require_run, Interpretation.mem_predict_require]
  rfl

theorem mem_runUtility (o : Origin t) (c : UtilityCall t.RuntimeOrigin (RuntimeCall t)) :
    p ∈ (runUtility .predict env o c).effects ↔ Through env p (utilityReached env o c) := by
  cases c with
  | batch calls =>
    simp only [runUtility, utilityReached, Interpretation.mem_predict_require, mem_runBatch,
      through_ite]
  | asDerivative index c =>
    simp only [runUtility, utilityReached]
    cases signer o.caller with
    | some who => simp only [Interpretation.mem_predict_require, through_admitted]; rfl
    | none => simp
  | batchAll calls =>
    simp only [runUtility, utilityReached, Interpretation.mem_predict_require, mem_runBatchAll,
      through_ite]
    simp only [Bool.and_eq_true, and_assoc]
  | dispatchAs asOrigin c =>
    simp only [runUtility, utilityReached, Interpretation.mem_predict_require,
      Interpretation.mem_predict_absorb, through_ite, through_singleton]
    rfl
  | forceBatch calls =>
    simp only [runUtility, utilityReached, Interpretation.mem_predict_require, mem_runForceBatch,
      through_ite]
  | withWeight c =>
    simp only [runUtility, utilityReached, Interpretation.mem_predict_require, through_ite,
      through_singleton]
    rfl
  | ifElse main fallback =>
    simp only [runUtility, utilityReached, Interpretation.mem_predict_require,
      Interpretation.mem_predict_orElse, through_ite, through_append, through_admitted]
    rfl
  | dispatchAsFallible asOrigin c =>
    simp only [runUtility, utilityReached, Interpretation.mem_predict_require, through_ite,
      through_singleton]
    rfl

theorem not_mem_opaqueCall (caller : t.RuntimeOrigin) (c : OpaqueCall) :
    p ∉ (Interpretation.predict.ofOutcomes (OpaqueCall.outcomes caller c)).effects := by
  rw [Interpretation.mem_predict_ofOutcomes]
  exact not_mayMove_opaqueCall caller c

theorem mem_transfer (caller : t.RuntimeOrigin) (moves : t.AccountId → Bool) :
    p ∈ (Interpretation.predict.ofOutcomes (transferOutcomes caller moves)).effects ↔
      p ∈ transferred caller moves ∨ Through env p [] := by
  rw [Interpretation.mem_predict_ofOutcomes, or_iff_left (through_nil env)]
  exact mayMove_transfer caller moves

theorem mem_runSudo (o : Origin t) (c : SudoCall t.AccountId (RuntimeCall t)) :
    p ∈ (runSudo .predict env o c).effects ↔ Through env p (sudoReached o c) := by
  cases c with
  | other c => exact iff_of_false (not_mem_opaqueCall o.caller c) (through_nil env)
  | _ =>
    simp only [runSudo, sudoReached, mem_sudoAuthorized, Interpretation.mem_predict_absorb,
      through_ite, through_singleton]
    rfl

theorem mem_runProxy (o : Origin t) (c : ProxyCall t.AccountId (RuntimeCall t)) :
    p ∈ (runProxy .predict env o c).effects ↔ Through env p (proxyReached env o c) := by
  cases c with
  | proxy real forceProxyType c =>
    simp only [runProxy, proxyReached]
    cases signer o.caller with
    | some who => exact mem_doProxy_filtered env who real forceProxyType c
    | none => simp
  | proxyAnnounced delegate real forceProxyType c =>
    simp only [runProxy, proxyReached]
    cases signer o.caller with
    | some who => exact mem_doProxy_filtered env delegate real forceProxyType c
    | none => simp
  | _ => exact iff_of_false (not_mem_opaqueCall o.caller _) (through_nil env)

theorem mem_runMultisig (o : Origin t) (c : MultisigCall t.AccountId (RuntimeCall t)) :
    p ∈ (runMultisig .predict env o c).effects ↔ Through env p (multisigReached env o c) := by
  cases c with
  | asMultiThreshold1 others c =>
    simp only [runMultisig, multisigReached]
    cases signer o.caller with
    | some who =>
      simp only [Interpretation.mem_predict_require, through_ite, through_admitted]
      rfl
    | none => simp
  | asMulti threshold others maybeTimepoint c maxWeight =>
    simp only [runMultisig, multisigReached]
    cases signer o.caller with
    | some who =>
      have hnone : p ∉ (Interpretation.predict.ofOutcomes
          [Outcome.failed, .done ([] : List (Payer t.AccountId))]).effects := by simp
      simp only [Interpretation.mem_predict_require, Interpretation.mem_predict_either, hnone,
        false_or, Interpretation.mem_predict_absorb, through_ite, through_admitted]
      simp only [Bool.and_eq_true, and_assoc]
      rfl
    | none => simp
  | other c => exact iff_of_false (not_mem_opaqueCall o.caller c) (through_nil env)

theorem mem_runReferenda (o : Origin t) (c : ReferendaCall t.RuntimeOrigin (RuntimeCall t)) :
    p ∈ (runReferenda .predict env o c).effects ↔ Through env p (referendaReached env o c) := by
  cases c with
  | submit proposalOrigin proposal =>
    simp only [runReferenda, referendaReached]
    cases signer o.caller with
    | some who =>
      have hnone : p ∉ (Interpretation.predict.ofOutcomes
          [Outcome.failed, .done ([] : List (Payer t.AccountId))]).effects := by simp
      simp only [Interpretation.mem_predict_require, Interpretation.mem_predict_either, hnone,
        false_or, Interpretation.mem_predict_absorb, through_ite, through_admitted]
      rfl
    | none => simp
  | other c => exact iff_of_false (not_mem_opaqueCall o.caller c) (through_nil env)

/-! ### Messages -/

theorem mem_attempted (r : Forecast (Payer t.AccountId)) :
    p ∈ (attempted .predict r).effects ↔ p ∈ r.effects := by
  simp [attempted]

theorem attempted_succeeds (r : Forecast (Payer t.AccountId)) :
    (attempted .predict r).succeeds = true := rfl

theorem runMessage_succeeds (l : Location) (message : List (Instruction (RuntimeCall t))) :
    (runMessage .predict env l message).succeeds = true := by
  induction message with
  | nil => rfl
  | cons i message ih =>
    cases i with
    | withdrawAsset interior => exact ih
    | transact interior kind c =>
      rw [runMessage]
      split
      · exact ih
      · exact ih

/-- No instruction keeps another one from running. -/
theorem mem_both_attempted (l : Location) (message : List (Instruction (RuntimeCall t)))
    (r : Forecast (Payer t.AccountId)) :
    p ∈ (Interpretation.predict.both (attempted .predict r)
        (runMessage .predict env l message)).effects ↔
      p ∈ r.effects ∨ p ∈ (runMessage .predict env l message).effects := by
  rw [Interpretation.mem_predict_both, mem_attempted]
  exact and_iff_right ⟨attempted_succeeds r, runMessage_succeeds env l message⟩

theorem messageReached_cons (l : Location) (i : Instruction (RuntimeCall t))
    (message : List (Instruction (RuntimeCall t))) : messageReached env l (i :: message) =
      i.reached env l ++ messageReached env l message := List.flatMap_cons

theorem mem_runMessage (l : Location) (message : List (Instruction (RuntimeCall t))) :
    p ∈ (runMessage .predict env l message).effects ↔
      p ∈ messageMoved l message ∨ Through env p (messageReached env l message) := by
  induction message with
  | nil => simp [runMessage, messageMoved, messageReached]
  | cons i message ih =>
    cases i with
    | withdrawAsset interior =>
      rw [runMessage, mem_both_attempted, ih, messageMoved_cons, messageReached_cons,
        List.mem_append, or_assoc]
      simp [Instruction.moved, Instruction.reached]
    | transact interior kind c =>
      rw [runMessage, messageMoved_cons, messageReached_cons, Instruction.reached]
      cases transactOrigin t l interior kind with
      | some o =>
        simp only [mem_both_attempted, ih, through_append, through_admitted,
          Interpretation.mem_predict_require]
        exact or_left_comm
      | none => exact ih

theorem mem_runPolkadotXcm (o : Origin t) (c : PolkadotXcmCall (RuntimeCall t)) :
    p ∈ (runPolkadotXcm .predict env o c).effects ↔
      p ∈ polkadotXcmMoved o.caller c ∨ Through env p (polkadotXcmReached env o c) := by
  cases c with
  | execute message =>
    simp only [runPolkadotXcm, polkadotXcmMoved, polkadotXcmReached]
    cases t.ensureXcmOrigin o.caller with
    | some l =>
      simp only [Interpretation.mem_predict_either, mem_runMessage]
      simp
    | none => simp
  | other c =>
    refine iff_of_false (not_mem_opaqueCall o.caller c) ?_
    exact not_or.mpr ⟨List.not_mem_nil, through_nil env⟩
  | _ => exact mem_transfer env o.caller _

theorem mem_runScheduler (o : Origin t) (c : SchedulerCall (RuntimeCall t)) :
    p ∈ (runScheduler .predict env o c).effects ↔ Through env p (scheduledReached o c) := by
  cases c with
  | other c => exact iff_of_false (not_mem_opaqueCall o.caller c) (through_nil env)
  | _ =>
    simp only [runScheduler, scheduledReached, mem_scheduled, through_ite, through_singleton]
    rfl

theorem mem_runWhitelist (o : Origin t) (c : WhitelistCall (RuntimeCall t)) :
    p ∈ (runWhitelist .predict env o c).effects ↔
      p ∈ fundsMoved o.caller (.whitelist c) ∨ Through env p (reached env o (.whitelist c)) := by
  cases c with
  | dispatchWhitelistedCall =>
    simp only [runWhitelist, fundsMoved, reached, through_nil, or_false]
    cases mayDispatchWhitelisted o.caller with
    | true => simp
    | false => simp
  | dispatchWhitelistedCallWithPreimage c =>
    have hnone : p ∉ (Interpretation.predict.ofOutcomes
        [(Outcome.failed : Outcome (Payer t.AccountId))]).effects := by simp
    simp only [runWhitelist, fundsMoved, reached, Interpretation.mem_predict_require,
      Interpretation.mem_predict_either, hnone, false_or, Interpretation.mem_predict_absorb,
      through_ite, through_singleton, List.not_mem_nil]
    rfl
  | other c =>
    refine iff_of_false (not_mem_opaqueCall o.caller c) ?_
    exact not_or.mpr ⟨List.not_mem_nil, through_nil env⟩

/-- A call moves funds itself, or through a call that it dispatches. -/
theorem mem_payers (o : Origin t) (c : RuntimeCall t) :
    p ∈ payers env o c ↔ p ∈ fundsMoved o.caller c ∨ Through env p (reached env o c) := by
  have leaf : ∀ {s : Outcomes t} {l : List (Payer t.AccountId)}, (MayMove p s ↔ p ∈ l) →
      (p ∈ (Interpretation.predict.ofOutcomes s).effects ↔ p ∈ l ∨ Through env p []) := by
    intro s l h
    rw [Interpretation.mem_predict_ofOutcomes, or_iff_left (through_nil env)]
    exact h
  have still : ∀ {s : Outcomes t}, ¬ MayMove p s →
      (p ∈ (Interpretation.predict.ofOutcomes s).effects ↔ p ∈ [] ∨ Through env p []) := by
    intro s h
    exact leaf (iff_of_false h List.not_mem_nil)
  have wrapper : ∀ {l : List (Origin t × RuntimeCall t)},
      Through env p l ↔ p ∈ ([] : List (Payer t.AccountId)) ∨ Through env p l := by
    intro l
    exact (or_iff_right List.not_mem_nil).symm
  cases c with
  | system c => exact still (not_mayMove_system o.caller c)
  | scheduler c => exact (mem_runScheduler env o c).trans wrapper
  | proxy c => exact (mem_runProxy env o c).trans wrapper
  | balances c => exact leaf (mayMove_balances o.caller c)
  | utility c => exact (mem_runUtility env o c).trans wrapper
  | multisig c => exact (mem_runMultisig env o c).trans wrapper
  | assets c => exact leaf (mayMove_assets o.caller c)
  | collatorSelection c => exact still (not_mayMove_collatorSelection o.caller c)
  | «sudo» c => exact (mem_runSudo env o c).trans wrapper
  | whitelist c => exact mem_runWhitelist env o c
  | treasury c => exact leaf (mayMove_treasury o.caller c)
  | referenda c => exact (mem_runReferenda env o c).trans wrapper
  | messageQueue c => exact leaf (mayMove_messageQueue o.caller c)
  | polkadotXcm c => exact mem_runPolkadotXcm env o c
  | xTokens c => exact leaf (mayMove_transfer o.caller _)
  | evmAbstraction c => exact leaf (mayMove_evmAbstraction o.caller c)
  | other pallet c => exact still (not_mayMove_opaqueCall o.caller c)

end Effects

end Runtime
end RuntimeTemplates
