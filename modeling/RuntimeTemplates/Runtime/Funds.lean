import RuntimeTemplates.Runtime.Plain

/-!
# RuntimeTemplates.Runtime.Funds

The calls that move funds, and whose. `fundsMoved` reads them off a call and its caller;
`mayMove_transfer` and the lemmas after it are that the outcomes of the call move these funds and no
others.
-/

namespace RuntimeTemplates
namespace Runtime

open Xcm

variable {t : Template}

section Movers

variable (caller : t.RuntimeOrigin)

def transferred (moves : t.AccountId → Bool) : List (Payer t.AccountId) :=
  match signer caller with
  | some who => if moves who then [.account who] else []
  | none => []

def entrusted (moves : Bool) (p : Payer t.AccountId) : List (Payer t.AccountId) :=
  match signer caller with
  | some _ => if moves then [p] else []
  | none => []

def balancesMoved : BalancesCall t.AccountId → List (Payer t.AccountId)
  | .transferAllowDeath dest value => transferred caller fun who => value != 0 && dest != who
  | .forceTransfer source dest value =>
    if isRoot caller ∧ value ≠ 0 ∧ dest ≠ source then [.account source] else []
  | .transferKeepAlive dest value => transferred caller fun who => value != 0 && dest != who
  | .transferAll dest => transferred caller fun who => dest != who
  | _ => []

def assetsMoved : AssetsCall t.AccountId t.AssetId → List (Payer t.AccountId)
  | .transfer _ target amount => transferred caller fun who => amount != 0 && target != who
  | .transferKeepAlive _ target amount => transferred caller fun who => amount != 0 && target != who
  | .transferAll _ dest => transferred caller fun who => dest != who
  | .transferApproved _ owner destination amount =>
    entrusted caller (amount != 0 && destination != owner) (.account owner)
  | .forceTransfer _ source dest amount =>
    entrusted caller (amount != 0 && dest != source) (.account source)
  | .other _ => []

def treasuryMoved : TreasuryCall → List (Payer t.AccountId)
  | .payout => entrusted caller true .treasury
  | .other _ => []

def messageQueueMoved : MessageQueueCall → List (Payer t.AccountId)
  | .executeOverweight => entrusted caller true .queued
  | .other _ => []

def Instruction.moved (l : Location) : Instruction (RuntimeCall t) → List (Payer t.AccountId)
  | .withdrawAsset interior => withdrawnFrom t l interior
  | .transact _ _ _ => []

/-- What the instructions of a message from `l` take from accounts. -/
def messageMoved (l : Location) (message : List (Instruction (RuntimeCall t))) :
    List (Payer t.AccountId) := message.flatMap (Instruction.moved l)

theorem messageMoved_cons (l : Location) (i : Instruction (RuntimeCall t))
    (message : List (Instruction (RuntimeCall t))) :
    messageMoved l (i :: message) = i.moved l ++ messageMoved l message := List.flatMap_cons

def polkadotXcmMoved : PolkadotXcmCall (RuntimeCall t) → List (Payer t.AccountId)
  | .execute message =>
    match t.ensureXcmOrigin caller with
    | some l => messageMoved l message
    | none => []
  | .other _ => []
  | c => transferred caller fun _ => c.sends

end Movers

def spentBy (source : H160) (moves : Bool) (code : List (Payer H160)) :
    List (Payer Evm.AccountId) := (if moves then [.account source] else []) ++ code

def spent (caller : Evm.RuntimeOrigin) (source : H160) (moves : Bool) (code : List (Payer H160)) :
    List (Payer Evm.AccountId) :=
  if signer caller = some source then spentBy source moves code else []

def evmMoved (caller : Evm.RuntimeOrigin) : EvmCall → List (Payer Evm.AccountId)
  | .withdraw address value => spent caller address (value != 0) []
  | .call source target value => spent caller source (value != 0 && target != source) [.contract]
  | .create source value => spent caller source (value != 0) [.contract]
  | .create2 source value => spent caller source (value != 0) [.contract]

def ethereumMoved (caller : Evm.RuntimeOrigin) : EthereumCall → List (Payer Evm.AccountId)
  | .transact action value =>
    match ensureEthereumTransaction caller with
    | some source => spentBy source (value != 0 && action != .call source) [.contract]
    | none => []

def evmAbstractionMoved : (t : Template) → t.RuntimeOrigin → t.EvmAbstractionCall →
    List (Payer t.AccountId)
  | .evm, caller, .evm c => evmMoved caller c
  | .evm, caller, .ethereum c => ethereumMoved caller c
  | .evm, _, .baseFee _ => []
  | .generic, _, c => c.elim

/-- Whose funds a call itself moves when it succeeds. -/
def fundsMoved (caller : t.RuntimeOrigin) : RuntimeCall t → List (Payer t.AccountId)
  | .balances c => balancesMoved caller c
  | .assets c => assetsMoved caller c
  | .treasury c => treasuryMoved caller c
  | .messageQueue c => messageQueueMoved caller c
  | .polkadotXcm c => polkadotXcmMoved caller c
  | .xTokens c => transferred caller fun _ => c.sends t
  | .evmAbstraction c => evmAbstractionMoved t caller c
  | .whitelist .dispatchWhitelistedCall => if mayDispatchWhitelisted caller then [.anyone] else []
  | _ => []

/-! ## Calls that move funds, by their outcomes -/

section Plain

variable {p : Payer t.AccountId}

/-- Some outcome moves funds of `p`. -/
def MayMove (p : Payer t.AccountId) (s : Outcomes t) : Prop := ∃ moved, .done moved ∈ s ∧ p ∈ moved

theorem not_mayMove_opaqueCall (caller : t.RuntimeOrigin) (c : OpaqueCall) :
    ¬ MayMove p (OpaqueCall.outcomes caller c) := by
  rintro ⟨moved, hmoved, hp⟩
  unfold OpaqueCall.outcomes Outcome.require at hmoved
  split at hmoved
  · split at hmoved
    · simp at hmoved
      subst hmoved
      cases hp
    · simp at hmoved
      subst hmoved
      cases hp
  · simp at hmoved

theorem mayMove_transfer (caller : t.RuntimeOrigin) (moves : t.AccountId → Bool) :
    MayMove p (transferOutcomes caller moves) ↔ p ∈ transferred caller moves := by
  cases hs : signer caller with
  | some who => simp [MayMove, transferOutcomes, transferred, hs]
  | none => simp [MayMove, transferOutcomes, transferred, hs]

theorem mayMove_balances (caller : t.RuntimeOrigin) (c : BalancesCall t.AccountId) :
    MayMove p (c.outcomes caller) ↔ p ∈ balancesMoved caller c := by
  cases c with
  | transferAllowDeath dest value => exact mayMove_transfer caller _
  | forceTransfer source dest value =>
    simp only [MayMove, BalancesCall.outcomes, balancesMoved, Outcome.require]
    cases isRoot caller <;> simp
  | transferKeepAlive dest value => exact mayMove_transfer caller _
  | transferAll dest => exact mayMove_transfer caller _
  | forceAdjustTotalIssuance =>
    exact iff_of_false (not_mayMove_opaqueCall caller _) List.not_mem_nil
  | burn value keepAlive =>
    refine (mayMove_transfer caller _).trans ?_
    unfold transferred
    split <;> simp [balancesMoved]
  | other c => exact iff_of_false (not_mayMove_opaqueCall caller c) List.not_mem_nil

theorem mayMove_entrusted (caller : t.RuntimeOrigin) (moves : Bool) (q : Payer t.AccountId) :
    MayMove p (entrustedOutcomes caller moves q) ↔ p ∈ entrusted caller moves q := by
  cases hs : signer caller with
  | some who => simp [MayMove, entrustedOutcomes, entrusted, hs]
  | none => simp [MayMove, entrustedOutcomes, entrusted, hs]

theorem mayMove_assets (caller : t.RuntimeOrigin) (c : AssetsCall t.AccountId t.AssetId) :
    MayMove p (c.outcomes caller) ↔ p ∈ assetsMoved caller c := by
  cases c with
  | transferApproved => exact mayMove_entrusted caller _ _
  | forceTransfer => exact mayMove_entrusted caller _ _
  | other c => exact iff_of_false (not_mayMove_opaqueCall caller c) List.not_mem_nil
  | _ => exact mayMove_transfer caller _

theorem mayMove_treasury (caller : t.RuntimeOrigin) (c : TreasuryCall) :
    MayMove p (c.outcomes caller) ↔ p ∈ treasuryMoved caller c := by
  cases c with
  | payout => exact mayMove_entrusted caller _ _
  | other c => exact iff_of_false (not_mayMove_opaqueCall caller c) List.not_mem_nil

theorem mayMove_messageQueue (caller : t.RuntimeOrigin) (c : MessageQueueCall) :
    MayMove p (c.outcomes caller) ↔ p ∈ messageQueueMoved caller c := by
  cases c with
  | executeOverweight => exact mayMove_entrusted caller _ _
  | other c => exact iff_of_false (not_mayMove_opaqueCall caller c) List.not_mem_nil

theorem mayMove_spendOutcomes (source : H160) (moves : Bool) (code : List (Payer H160))
    {p : Payer Evm.AccountId} :
    MayMove (t := .evm) p (spendOutcomes source moves code) ↔ p ∈ spentBy source moves code := by
  simp [MayMove, spendOutcomes, spentBy]

theorem mayMove_spend (caller : Evm.RuntimeOrigin) (source : H160) (moves : Bool)
    (code : List (Payer H160)) {p : Payer Evm.AccountId} :
    MayMove (t := .evm) p (EvmCall.outcomes.spend caller source moves code) ↔
      p ∈ spent caller source moves code := by
  by_cases hs : signer caller = some source
  · simp only [EvmCall.outcomes.spend, spent, Outcome.require, hs, beq_self_eq_true, if_true]
    exact mayMove_spendOutcomes source moves code
  · simp [MayMove, EvmCall.outcomes.spend, spent, Outcome.require, hs]

theorem mayMove_ethereum (caller : Evm.RuntimeOrigin) (c : EthereumCall)
    {p : Payer Evm.AccountId} :
    MayMove (t := .evm) p (c.outcomes caller) ↔ p ∈ ethereumMoved caller c := by
  cases c with
  | transact action value =>
    rw [EthereumCall.outcomes, ethereumMoved]
    cases ensureEthereumTransaction caller with
    | some source => exact mayMove_spendOutcomes _ _ _
    | none => simp [MayMove]

theorem mayMove_evmAbstraction (caller : t.RuntimeOrigin) (c : t.EvmAbstractionCall) :
    MayMove p (evmAbstractionOutcomes t caller c) ↔ p ∈ evmAbstractionMoved t caller c := by
  cases t with
  | evm =>
    cases c with
    | evm c => cases c <;> exact mayMove_spend caller _ _ _
    | ethereum c => exact mayMove_ethereum caller c
    | baseFee c => exact iff_of_false (not_mayMove_opaqueCall (t := .evm) caller c) List.not_mem_nil
  | generic => exact c.elim

theorem not_mayMove_collatorSelection (caller : t.RuntimeOrigin) (c : CollatorSelectionCall) :
    ¬ MayMove p (c.outcomes caller) := by
  cases c with
  | setDesiredCandidates max =>
    rw [CollatorSelectionCall.outcomes]
    split
    · rintro ⟨moved, hmoved, hp⟩
      simp at hmoved
      subst hmoved
      cases hp
    · exact not_mayMove_opaqueCall caller _
  | other c => exact not_mayMove_opaqueCall caller c

theorem not_mayMove_system (caller : t.RuntimeOrigin) (c : SystemCall) :
    ¬ MayMove p (c.outcomes caller) := by
  cases c <;> exact not_mayMove_opaqueCall caller _

end Plain

end Runtime
end RuntimeTemplates
