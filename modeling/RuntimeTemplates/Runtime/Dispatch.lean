import RuntimeTemplates.Governance.Tracks
import RuntimeTemplates.Lib.Forecast
import RuntimeTemplates.Runtime.Plain

/-!
# RuntimeTemplates.Runtime.Dispatch

What dispatching a call can do to the funds of accounts, for every call of the runtime.

* `run`: what a call makes of the calls inside it, over any `Interpretation`.
* `dispatch`: the possible outcomes. `forecast`: the payers that a walk over the call reaches.
* `run_simulates`: interpretations with related parts have related runs, by induction on the call.
-/

namespace RuntimeTemplates
namespace Runtime

open Governance Xcm

variable {t : Template}

/-! ## Calls with nested calls -/

section Wrappers

variable {R : Type} (I : Interpretation (Payer t.AccountId) R)

/-- `ensure_sudo`: root, or the account that is the sudo key. -/
def sudoAuthorized (caller : t.RuntimeOrigin) (r : R) : R :=
  match caller with
  | .system .root => r
  | .system (.signed _) => I.either (I.ofOutcomes [.failed]) r
  | _ => I.ofOutcomes [.failed]

/-- `find_proxy`: a proxy found by its delegate alone may be of any type. -/
def ofProxyType (forceProxyType : Option ProxyType) (call : ProxyType → R) : R :=
  match forceProxyType with
  | some ty => call ty
  | none =>
    I.either (call .any) (I.either (call .nonTransfer) (I.either (call .cancelProxy)
      (call .collator)))

/-- `do_proxy`, for a proxy found by its `delegate`; no account is its own proxy. The outcome of the
call is only reported. -/
def doProxy (delegate real : t.AccountId) (forceProxyType : Option ProxyType)
    (call : ProxyType → R) : R :=
  I.require (delegate != real) (I.either (I.ofOutcomes [.failed])
    (ofProxyType I forceProxyType fun ty => I.absorb (call ty)))

/-- A call that root or a scheduled task runs later, or that is cancelled before. -/
def scheduled (caller : t.RuntimeOrigin) (r : R) : R :=
  I.require (isRoot caller) (I.either (I.ofOutcomes [.failed, .done []]) (I.absorb r))

/-- An instruction of a message. The message may fail before it comes there, and go on after the
instruction fails. -/
def attempted (r : R) : R := I.either (I.ofOutcomes [.done []]) (I.absorb r)

end Wrappers

/-- The origin of the calls of a `batch_all`: `batch_all` calls do not nest, except for root. -/
def batchAllOrigin (o : Origin t) : Origin t :=
  if isRoot o.caller then o else o.addFilter .noBatchAll

section Run

variable {R : Type} (I : Interpretation (Payer t.AccountId) R) (env : Environment t)

mutual

/-- `dispatch_bypass_filter`. A nested call is filtered with the origin it is dispatched with. -/
def run (o : Origin t) : RuntimeCall t → R
  | .system c => I.ofOutcomes (c.outcomes o.caller)
  | .scheduler c => runScheduler o c
  | .proxy c => runProxy o c
  | .balances c => I.ofOutcomes (c.outcomes o.caller)
  | .utility c => runUtility o c
  | .multisig c => runMultisig o c
  | .assets c => I.ofOutcomes (c.outcomes o.caller)
  | .collatorSelection c => I.ofOutcomes (c.outcomes o.caller)
  | .sudo c => runSudo o c
  | .whitelist c => runWhitelist o c
  | .treasury c => I.ofOutcomes (c.outcomes o.caller)
  | .referenda c => runReferenda o c
  | .messageQueue c => I.ofOutcomes (c.outcomes o.caller)
  | .polkadotXcm c => runPolkadotXcm o c
  | .xTokens c => I.ofOutcomes (c.outcomes o.caller)
  | .evmAbstraction c => I.ofOutcomes (evmAbstractionOutcomes t o.caller c)
  | .other _ c => I.ofOutcomes (c.outcomes o.caller)

def runUtility (o : Origin t) : UtilityCall t.RuntimeOrigin (RuntimeCall t) → R
  | .batch calls =>
    I.require (!isNone o.caller && calls.length ≤ env.batchedCallsLimit) (runBatch o calls)
  | .asDerivative index call =>
    match signer o.caller with
    | some who =>
      let derived : Origin t := { o with caller := .signed (env.derivativeAccountId who index) }
      I.require (derived.filterCall env call) (run derived call)
    | none => I.ofOutcomes [.failed]
  | .batchAll calls =>
    I.require (!isNone o.caller && calls.length ≤ env.batchedCallsLimit)
      (runBatchAll (batchAllOrigin o) calls)
  | .dispatchAs asOrigin call => I.require (isRoot o.caller) (I.absorb (run (.fresh asOrigin) call))
  | .forceBatch calls =>
    I.require (!isNone o.caller && calls.length ≤ env.batchedCallsLimit) (runForceBatch o calls)
  | .withWeight call => I.require (isRoot o.caller) (run (.fresh .root) call)
  | .ifElse main fallback =>
    I.require (!isNone o.caller)
      (I.orElse (I.require (o.filterCall env main) (run o main))
        (I.require (o.filterCall env fallback) (run o fallback)))
  | .dispatchAsFallible asOrigin call => I.require (isRoot o.caller) (run (.fresh asOrigin) call)

/-- A failure stops the batch and keeps what came before. -/
def runBatch (o : Origin t) : List (RuntimeCall t) → R
  | [] => I.ofOutcomes [.done []]
  | call :: calls =>
    I.untilFailure (I.require (o.filterCall env call) (run o call)) (runBatch o calls)

def runBatchAll (o : Origin t) : List (RuntimeCall t) → R
  | [] => I.ofOutcomes [.done []]
  | call :: calls =>
    I.both (I.require (o.filterCall env call) (run o call)) (runBatchAll o calls)

def runForceBatch (o : Origin t) : List (RuntimeCall t) → R
  | [] => I.ofOutcomes [.done []]
  | call :: calls =>
    I.both (I.absorb (I.require (o.filterCall env call) (run o call))) (runForceBatch o calls)

def runSudo (o : Origin t) : SudoCall t.AccountId (RuntimeCall t) → R
  | .sudo call => sudoAuthorized I o.caller (I.absorb (run (.fresh .root) call))
  | .sudoUncheckedWeight call => sudoAuthorized I o.caller (I.absorb (run (.fresh .root) call))
  | .sudoAs who call => sudoAuthorized I o.caller (I.absorb (run (.fresh (.signed who)) call))
  | .other c => I.ofOutcomes (c.outcomes o.caller)

def runProxy (o : Origin t) : ProxyCall t.AccountId (RuntimeCall t) → R
  | .proxy real forceProxyType call =>
    match signer o.caller with
    | some who =>
      doProxy I who real forceProxyType fun ty =>
        I.require ((Origin.proxied ty real).filterCall env call) (run (.proxied ty real) call)
    | none => I.ofOutcomes [.failed]
  | .proxyAnnounced delegate real forceProxyType call =>
    match signer o.caller with
    | some _ =>
      doProxy I delegate real forceProxyType fun ty =>
        I.require ((Origin.proxied ty real).filterCall env call) (run (.proxied ty real) call)
    | none => I.ofOutcomes [.failed]
  | .removeProxies => I.ofOutcomes (OpaqueCall.outcomes o.caller (signedCall false))
  | .other c => I.ofOutcomes (c.outcomes o.caller)
  | _ => I.ofOutcomes (OpaqueCall.outcomes o.caller (signedCall true))

def runMultisig (o : Origin t) : MultisigCall t.AccountId (RuntimeCall t) → R
  | .asMultiThreshold1 others call =>
    match signer o.caller with
    | some who =>
      let multi : Origin t := .fresh (.signed (env.multiAccountId who others 1))
      I.require (env.validSignatories who others)
        (I.require (multi.filterCall env call) (run multi call))
    | none => I.ofOutcomes [.failed]
  | .asMulti threshold others maybeTimepoint call maxWeight =>
    -- approved, or dispatched by the last approval, whose outcome is only reported. Each approval
    -- but the first names the time of the first, and there are no more than signatories
    match signer o.caller with
    | some who =>
      let multi : Origin t := .fresh (.signed (env.multiAccountId who others threshold))
      I.require (2 ≤ threshold && env.validSignatories who others)
        (I.either (I.ofOutcomes [.failed, .done []])
          (I.require ((maybeTimepoint.isSome && threshold.toNat ≤ others.length + 1) &&
              (env.callWeight call).allLte maxWeight)
            (I.absorb (I.require (multi.filterCall env call) (run multi call)))))
    | none => I.ofOutcomes [.failed]
  | .other c => I.ofOutcomes (c.outcomes o.caller)

def runScheduler (o : Origin t) : SchedulerCall (RuntimeCall t) → R
  | .schedule call => scheduled I o.caller (run (.fresh .root) call)
  | .scheduleNamed call => scheduled I o.caller (run (.fresh .root) call)
  | .scheduleAfter call => scheduled I o.caller (run (.fresh .root) call)
  | .scheduleNamedAfter call => scheduled I o.caller (run (.fresh .root) call)
  | .other c => I.ofOutcomes (c.outcomes o.caller)

def runWhitelist (o : Origin t) : WhitelistCall (RuntimeCall t) → R
  | .dispatchWhitelistedCall =>
    I.require (mayDispatchWhitelisted o.caller)
      (I.ofOutcomes [.failed, .done [], .done [.anyone]])
  | .dispatchWhitelistedCallWithPreimage call =>
    I.require (mayDispatchWhitelisted o.caller)
      (I.either (I.ofOutcomes [.failed]) (I.absorb (run (.fresh .root) call)))
  | .other c => I.ofOutcomes (c.outcomes o.caller)

/-- A proposal may be refused, or else be enacted later by the scheduler. -/
def runReferenda (o : Origin t) : ReferendaCall t.RuntimeOrigin (RuntimeCall t) → R
  | .submit proposalOrigin proposal =>
    match signer o.caller with
    | some _ =>
      let enacted : Origin t := .fresh proposalOrigin
      I.require (trackFor proposalOrigin).isOk
        (I.either (I.ofOutcomes [.failed, .done []])
          (I.absorb (I.require (enacted.filterCall env proposal) (run enacted proposal))))
    | none => I.ofOutcomes [.failed]
  | .other c => I.ofOutcomes (c.outcomes o.caller)

def runPolkadotXcm (o : Origin t) : PolkadotXcmCall (RuntimeCall t) → R
  | .execute message =>
    match t.ensureXcmOrigin o.caller with
    | some l => I.either (I.ofOutcomes [.failed]) (runMessage l message)
    | none => I.ofOutcomes [.failed]
  | .other c => I.ofOutcomes (c.outcomes o.caller)
  | c => I.ofOutcomes (transferOutcomes o.caller fun _ => c.sends)

def runMessage (l : Location) : List (Instruction (RuntimeCall t)) → R
  | [] => I.ofOutcomes [.done []]
  | .withdrawAsset interior :: message =>
    I.both (attempted I (I.ofOutcomes [.done (withdrawnFrom t l interior)])) (runMessage l message)
  | .transact interior kind call :: message =>
    match transactOrigin t l interior kind with
    | some o =>
      I.both (attempted I (I.require (o.filterCall env call) (run o call))) (runMessage l message)
    | none => runMessage l message

end

/-- `Dispatchable::dispatch`. -/
def runFiltered (o : Origin t) (c : RuntimeCall t) : R :=
  I.require (o.filterCall env c) (run I env o c)

end Run

/-! ## Runs under two interpretations -/

section Simulation

variable {R S : Type} {I : Interpretation (Payer t.AccountId) R}
  {J : Interpretation (Payer t.AccountId) S} {rel : R → S → Prop} (h : I.Simulates J rel)
  (env : Environment t)

include h

theorem sudoAuthorized_simulates (caller : t.RuntimeOrigin) {r : R} {s : S} (hr : rel r s) :
    rel (sudoAuthorized I caller r) (sudoAuthorized J caller s) := by
  unfold sudoAuthorized
  split
  · exact hr
  · exact h.either (h.ofOutcomes _ (by simp)) hr
  · exact h.ofOutcomes _ (by simp)

theorem doProxy_simulates (delegate real : t.AccountId) (forceProxyType : Option ProxyType)
    {f : ProxyType → R} {g : ProxyType → S} (hfg : ∀ ty, rel (f ty) (g ty)) :
    rel (doProxy I delegate real forceProxyType f) (doProxy J delegate real forceProxyType g) := by
  have habsorb : ∀ ty, rel (I.absorb (f ty)) (J.absorb (g ty)) := fun ty => h.absorb (hfg ty)
  refine h.require (h.either (h.ofOutcomes _ (by simp)) ?_) _
  cases forceProxyType with
  | some ty => exact habsorb ty
  | none =>
    exact h.either (habsorb _) (h.either (habsorb _) (h.either (habsorb _) (habsorb _)))

theorem attempted_simulates {r : R} {s : S} (hr : rel r s) :
    rel (attempted I r) (attempted J s) :=
  h.either (h.ofOutcomes _ (by simp)) (h.absorb hr)

theorem scheduled_simulates (caller : t.RuntimeOrigin) {r : R} {s : S} (hr : rel r s) :
    rel (scheduled I caller r) (scheduled J caller s) :=
  h.require (h.either (h.ofOutcomes _ (by simp)) (h.absorb hr)) _

mutual

/-- The induction is on the call, for every origin: a wrapper changes the origin of what it
carries. -/
theorem run_simulates : ∀ (c : RuntimeCall t) (o : Origin t), rel (run I env o c) (run J env o c)
  | .system c, o => h.ofOutcomes _ (c.outcomes_ne_nil o.caller)
  | .scheduler c, o => runScheduler_simulates c o
  | .proxy c, o => runProxy_simulates c o
  | .balances c, o => h.ofOutcomes _ (c.outcomes_ne_nil o.caller)
  | .utility c, o => runUtility_simulates c o
  | .multisig c, o => runMultisig_simulates c o
  | .assets c, o => h.ofOutcomes _ (c.outcomes_ne_nil o.caller)
  | .collatorSelection c, o => h.ofOutcomes _ (c.outcomes_ne_nil o.caller)
  | .sudo c, o => runSudo_simulates c o
  | .whitelist c, o => runWhitelist_simulates c o
  | .treasury c, o => h.ofOutcomes _ (c.outcomes_ne_nil o.caller)
  | .referenda c, o => runReferenda_simulates c o
  | .messageQueue c, o => h.ofOutcomes _ (c.outcomes_ne_nil o.caller)
  | .polkadotXcm c, o => runPolkadotXcm_simulates c o
  | .xTokens _, o => h.ofOutcomes _ (transferOutcomes_ne_nil o.caller _)
  | .evmAbstraction c, o => h.ofOutcomes _ (evmAbstractionOutcomes_ne_nil o.caller c)
  | .other _ c, o => h.ofOutcomes _ (c.outcomes_ne_nil o.caller)

theorem runUtility_simulates : ∀ (c : UtilityCall t.RuntimeOrigin (RuntimeCall t)) (o : Origin t),
    rel (runUtility I env o c) (runUtility J env o c)
  | .batch calls, o => by
    simp only [runUtility]
    exact h.require (runBatch_simulates calls o) _
  | .asDerivative index call, o => by
    simp only [runUtility]
    split
    · exact h.require (run_simulates call _) _
    · exact h.ofOutcomes _ (by simp)
  | .batchAll calls, o => by
    simp only [runUtility]
    exact h.require (runBatchAll_simulates calls _) _
  | .dispatchAs asOrigin call, o => by
    simp only [runUtility]
    exact h.require (h.absorb (run_simulates call _)) _
  | .forceBatch calls, o => by
    simp only [runUtility]
    exact h.require (runForceBatch_simulates calls o) _
  | .withWeight call, o => by
    simp only [runUtility]
    exact h.require (run_simulates call _) _
  | .ifElse main fallback, o => by
    simp only [runUtility]
    have hmain := h.require (run_simulates main o) (o.filterCall env main)
    have hfallback := h.require (run_simulates fallback o) (o.filterCall env fallback)
    exact h.require (h.orElse hmain hfallback) _
  | .dispatchAsFallible asOrigin call, o => by
    simp only [runUtility]
    exact h.require (run_simulates call _) _

theorem runBatch_simulates : ∀ (calls : List (RuntimeCall t)) (o : Origin t),
    rel (runBatch I env o calls) (runBatch J env o calls)
  | [], _ => h.ofOutcomes _ (by simp)
  | call :: calls, o => by
    simp only [runBatch]
    exact h.untilFailure (h.require (run_simulates call o) _) (runBatch_simulates calls o)

theorem runBatchAll_simulates : ∀ (calls : List (RuntimeCall t)) (o : Origin t),
    rel (runBatchAll I env o calls) (runBatchAll J env o calls)
  | [], _ => h.ofOutcomes _ (by simp)
  | call :: calls, o => by
    simp only [runBatchAll]
    exact h.both (h.require (run_simulates call o) _) (runBatchAll_simulates calls o)

theorem runForceBatch_simulates : ∀ (calls : List (RuntimeCall t)) (o : Origin t),
    rel (runForceBatch I env o calls) (runForceBatch J env o calls)
  | [], _ => h.ofOutcomes _ (by simp)
  | call :: calls, o => by
    simp only [runForceBatch]
    have hcall := h.require (run_simulates call o) (o.filterCall env call)
    exact h.both (h.absorb hcall) (runForceBatch_simulates calls o)

theorem runSudo_simulates : ∀ (c : SudoCall t.AccountId (RuntimeCall t)) (o : Origin t),
    rel (runSudo I env o c) (runSudo J env o c)
  | .sudo call, o => by
    simp only [runSudo]
    exact sudoAuthorized_simulates h _ (h.absorb (run_simulates call _))
  | .sudoUncheckedWeight call, o => by
    simp only [runSudo]
    exact sudoAuthorized_simulates h _ (h.absorb (run_simulates call _))
  | .sudoAs who call, o => by
    simp only [runSudo]
    exact sudoAuthorized_simulates h _ (h.absorb (run_simulates call _))
  | .other c, o => h.ofOutcomes _ (c.outcomes_ne_nil o.caller)

theorem runProxy_simulates : ∀ (c : ProxyCall t.AccountId (RuntimeCall t)) (o : Origin t),
    rel (runProxy I env o c) (runProxy J env o c)
  | .proxy real forceProxyType call, o => by
    simp only [runProxy]
    split
    · exact doProxy_simulates h _ _ _ fun ty => h.require (run_simulates call _) _
    · exact h.ofOutcomes _ (by simp)
  | .proxyAnnounced delegate real forceProxyType call, o => by
    simp only [runProxy]
    split
    · exact doProxy_simulates h _ _ _ fun ty => h.require (run_simulates call _) _
    · exact h.ofOutcomes _ (by simp)
  | .addProxy _ _, o => h.ofOutcomes _ (OpaqueCall.outcomes_ne_nil o.caller _)
  | .removeProxy _ _, o => h.ofOutcomes _ (OpaqueCall.outcomes_ne_nil o.caller _)
  | .removeProxies, o => h.ofOutcomes _ (OpaqueCall.outcomes_ne_nil o.caller _)
  | .killPure, o => h.ofOutcomes _ (OpaqueCall.outcomes_ne_nil o.caller _)
  | .rejectAnnouncement _, o => h.ofOutcomes _ (OpaqueCall.outcomes_ne_nil o.caller _)
  | .other c, o => h.ofOutcomes _ (c.outcomes_ne_nil o.caller)

theorem runMultisig_simulates : ∀ (c : MultisigCall t.AccountId (RuntimeCall t)) (o : Origin t),
    rel (runMultisig I env o c) (runMultisig J env o c)
  | .asMultiThreshold1 others call, o => by
    simp only [runMultisig]
    split
    · exact h.require (h.require (run_simulates call _) _) _
    · exact h.ofOutcomes _ (by simp)
  | .asMulti threshold others maybeTimepoint call maxWeight, o => by
    simp only [runMultisig]
    split
    · refine h.require (h.either (h.ofOutcomes _ (by simp)) ?_) _
      exact h.require (h.absorb (h.require (run_simulates call _) _)) _
    · exact h.ofOutcomes _ (by simp)
  | .other c, o => h.ofOutcomes _ (c.outcomes_ne_nil o.caller)

theorem runScheduler_simulates : ∀ (c : SchedulerCall (RuntimeCall t)) (o : Origin t),
    rel (runScheduler I env o c) (runScheduler J env o c)
  | .schedule call, _ => scheduled_simulates h _ (run_simulates call _)
  | .scheduleNamed call, _ => scheduled_simulates h _ (run_simulates call _)
  | .scheduleAfter call, _ => scheduled_simulates h _ (run_simulates call _)
  | .scheduleNamedAfter call, _ => scheduled_simulates h _ (run_simulates call _)
  | .other c, o => h.ofOutcomes _ (c.outcomes_ne_nil o.caller)

theorem runWhitelist_simulates : ∀ (c : WhitelistCall (RuntimeCall t)) (o : Origin t),
    rel (runWhitelist I env o c) (runWhitelist J env o c)
  | .dispatchWhitelistedCall, o => by
    simp only [runWhitelist]
    exact h.require (h.ofOutcomes _ (by simp)) _
  | .dispatchWhitelistedCallWithPreimage call, o => by
    simp only [runWhitelist]
    exact h.require (h.either (h.ofOutcomes _ (by simp)) (h.absorb (run_simulates call _))) _
  | .other c, o => h.ofOutcomes _ (c.outcomes_ne_nil o.caller)

theorem runReferenda_simulates : ∀ (c : ReferendaCall t.RuntimeOrigin (RuntimeCall t))
    (o : Origin t), rel (runReferenda I env o c) (runReferenda J env o c)
  | .submit proposalOrigin proposal, o => by
    simp only [runReferenda]
    split
    · refine h.require (h.either (h.ofOutcomes _ (by simp)) ?_) _
      exact h.absorb (h.require (run_simulates proposal _) _)
    · exact h.ofOutcomes _ (by simp)
  | .other c, o => h.ofOutcomes _ (c.outcomes_ne_nil o.caller)

theorem runPolkadotXcm_simulates : ∀ (c : PolkadotXcmCall (RuntimeCall t)) (o : Origin t),
    rel (runPolkadotXcm I env o c) (runPolkadotXcm J env o c)
  | .execute message, o => by
    simp only [runPolkadotXcm]
    split
    · exact h.either (h.ofOutcomes _ (by simp)) (runMessage_simulates message _)
    · exact h.ofOutcomes _ (by simp)
  | .other c, o => h.ofOutcomes _ (c.outcomes_ne_nil o.caller)
  | .teleportAssets _ _, o => h.ofOutcomes _ (transferOutcomes_ne_nil o.caller _)
  | .reserveTransferAssets _ _, o => h.ofOutcomes _ (transferOutcomes_ne_nil o.caller _)
  | .limitedReserveTransferAssets _ _, o => h.ofOutcomes _ (transferOutcomes_ne_nil o.caller _)
  | .limitedTeleportAssets _ _, o => h.ofOutcomes _ (transferOutcomes_ne_nil o.caller _)
  | .transferAssets _ _, o => h.ofOutcomes _ (transferOutcomes_ne_nil o.caller _)
  | .transferAssetsUsingTypeAndThen _ _, o => h.ofOutcomes _ (transferOutcomes_ne_nil o.caller _)

theorem runMessage_simulates : ∀ (message : List (Instruction (RuntimeCall t))) (l : Location),
    rel (runMessage I env l message) (runMessage J env l message)
  | [], _ => h.ofOutcomes _ (by simp)
  | .withdrawAsset interior :: message, l => by
    simp only [runMessage]
    exact h.both (attempted_simulates h (h.ofOutcomes _ (by simp))) (runMessage_simulates message l)
  | .transact interior kind call :: message, l => by
    simp only [runMessage]
    split
    · rename_i o _
      have hcall := h.require (run_simulates call o) (o.filterCall env call)
      exact h.both (attempted_simulates h hcall) (runMessage_simulates message l)
    · exact runMessage_simulates message l

end

theorem runFiltered_simulates (o : Origin t) (c : RuntimeCall t) :
    rel (runFiltered I env o c) (runFiltered J env o c) :=
  h.require (run_simulates h env c o) _

end Simulation

/-- The possible outcomes of dispatching a call. -/
def dispatch (env : Environment t) (o : Origin t) (c : RuntimeCall t) : Outcomes t :=
  runFiltered .collect env o c

def forecast (env : Environment t) (o : Origin t) (c : RuntimeCall t) :
    Forecast (Payer t.AccountId) := runFiltered .predict env o c

/-- The walk over the call finds exactly what can happen. -/
theorem forecast_fits (env : Environment t) (o : Origin t) (c : RuntimeCall t) :
    (forecast env o c).Fits (dispatch env o c) :=
  runFiltered_simulates Interpretation.predict_simulates_collect env o c

end Runtime
end RuntimeTemplates
