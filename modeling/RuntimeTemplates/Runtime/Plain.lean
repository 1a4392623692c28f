import RuntimeTemplates.Lib.Outcomes
import RuntimeTemplates.Runtime.LocalOrigin

/-!
# RuntimeTemplates.Runtime.Plain

What a call that carries no other calls can do to the funds of accounts. A call is run against an
unknown state, so each check on the state may go either way, and the result is the list of the
possible outcomes. An effect is a payer: an account whose funds a call has moved to another account
or chain. Fees, deposits and slashes are left out.
-/

namespace RuntimeTemplates
namespace Runtime

open Xcm

variable {t : Template}

/-- Whose funds were moved: those of an account, of the treasury, of a contract that runs, or of the
account that a queued message of another chain takes them from. A call that is known by its hash
only may move anyone's. -/
inductive Payer (AccountId : Type) where
  | account (who : AccountId)
  | treasury
  | contract
  | queued
  | anyone
  deriving DecidableEq

def Payer.Is {AccountId : Type} (who : AccountId) (p : Payer AccountId) : Prop :=
  p = .account who ∨ p = .anyone

instance {AccountId : Type} [DecidableEq AccountId] (who : AccountId) (p : Payer AccountId) :
    Decidable (p.Is who) := inferInstanceAs (Decidable (_ ∨ _))

abbrev Outcomes (t : Template) := List (Outcome (Payer t.AccountId))

/-! ## Transfers to other chains -/

def XTokensCall.amounts : XTokensCall → List Nat
  | .transfer amount => [amount]
  | .transferMultiasset asset => [asset.fungibleAmount]
  | .transferWithFee amount fee => [amount, fee]
  | .transferMultiassetWithFee asset fee => [asset.fungibleAmount, fee.fungibleAmount]
  | .transferMulticurrencies amounts _ => amounts
  | .transferMultiassets assets _ => assets.map Asset.fungibleAmount

def XTokensCall.feeItem : XTokensCall → Nat
  | .transferMulticurrencies _ feeItem => feeItem
  | .transferMultiassets _ feeItem => feeItem
  | _ => 0

/-- The checks on the assets: not too many, none of them empty, and the fee among them. -/
def XTokensCall.sends (t : Template) (c : XTokensCall) : Bool :=
  c.amounts.length ≤ t.maxAssetsForTransfer && c.feeItem < c.amounts.length &&
    c.amounts.all (· != 0)

/-- `MAX_ASSETS_FOR_TRANSFER` of `pallet_xcm`. -/
def maxAssetsForXcmTransfer : Nat := 2

/-- No transactor of the templates takes an asset that is not fungible. -/
def sendable (assets : List Asset) : Bool :=
  assets.length ≤ maxAssetsForXcmTransfer && assets.all fun a => a.fungibleAmount != 0

/-- The checks on the assets of the calls that are transfers. -/
def PolkadotXcmCall.sends {Call : Type} : PolkadotXcmCall Call → Bool
  | .teleportAssets assets feeAssetItem => sendable assets && feeAssetItem < assets.length
  | .reserveTransferAssets assets feeAssetItem => sendable assets && feeAssetItem < assets.length
  | .limitedReserveTransferAssets assets feeAssetItem =>
    sendable assets && feeAssetItem < assets.length
  | .limitedTeleportAssets assets feeAssetItem => sendable assets && feeAssetItem < assets.length
  | .transferAssets assets feeAssetItem => sendable assets && feeAssetItem < assets.length
  | .transferAssetsUsingTypeAndThen assets remoteFeesId =>
    sendable assets && assets.any fun a => a.id == remoteFeesId
  | .execute _ => false
  | .other _ => false

/-! ## Messages -/

/-- The account that a message from `l` takes assets from. -/
def withdrawnFrom (t : Template) (l : Location) (interior : Junctions) :
    List (Payer t.AccountId) :=
  (((l.appendWith interior).bind t.locationToAccountId).map Payer.account).toList

/-- The origin of what a message from `l` has dispatched. -/
def transactOrigin (t : Template) (l : Location) (interior : Junctions) (kind : OriginKind) :
    Option (Origin t) :=
  (l.appendWith interior).bind fun l =>
    (t.xcmOriginToTransactDispatchOrigin l kind).toOption.map Origin.fresh

theorem transactOrigin_eq_some {l : Location} {interior : Junctions} {kind : OriginKind}
    {o : Origin t} : transactOrigin t l interior kind = some o ↔
      ∃ m caller, l.appendWith interior = some m ∧
        t.xcmOriginToTransactDispatchOrigin m kind = .ok caller ∧ .fresh caller = o := by
  simp only [transactOrigin, Option.bind_eq_some_iff, Option.map_eq_some_iff]
  constructor
  · rintro ⟨m, hm, caller, hcaller, ho⟩
    cases hc : t.xcmOriginToTransactDispatchOrigin m kind with
    | ok x =>
      rw [hc] at hcaller
      cases hcaller
      exact ⟨m, caller, hm, hc, ho⟩
    | error e =>
      rw [hc] at hcaller
      cases hcaller
  · rintro ⟨m, caller, hm, hcaller, ho⟩
    exact ⟨m, hm, caller, by rw [hcaller]; rfl, ho⟩

/-- What a caller of this chain has dispatched by a message, an account dispatches, or what sends
messages. -/
theorem transactOrigin_local {caller : t.RuntimeOrigin} {l : Location} {interior : Junctions}
    {kind : OriginKind} {o : Origin t} (hl : t.ensureXcmOrigin caller = some l)
    (h : transactOrigin t l interior kind = some o) : ∃ m, l.appendWith interior = some m ∧
      ((∃ x, o = .fresh (.signed x) ∧ t.locationToAccountId m = some x) ∨
        (kind = .xcm ∧ o = .fresh (.polkadotXcm (.xcm m)))) := by
  obtain ⟨m, caller', hm, hconvert, rfl⟩ := transactOrigin_eq_some.mp h
  have hparents : m.parents = 0 :=
    (Location.appendWith_eq_some.mp hm).1.trans (ensureXcmOrigin_parents hl)
  refine ⟨m, hm, ?_⟩
  rcases convert_local hparents hconvert with ⟨x, rfl, hx⟩ | ⟨hkind, rfl⟩
  · exact .inl ⟨x, rfl, hx⟩
  · exact .inr ⟨hkind, rfl⟩

/-! ## Outcomes -/

section Plain

variable (caller : t.RuntimeOrigin)

def rootCall (fallible : Bool) : OpaqueCall := ⟨true, false, false, false, fallible⟩

def signedCall (fallible : Bool) : OpaqueCall := ⟨false, true, false, false, fallible⟩

def OpaqueCall.accepts (c : OpaqueCall) : Bool :=
  match caller with
  | .system .root => c.root
  | .system (.signed _) => c.signed
  | .system .none => c.none
  | _ => c.pallet

/-- A call that moves no funds. -/
def OpaqueCall.outcomes (c : OpaqueCall) : Outcomes t :=
  Outcome.require (c.accepts caller) (if c.fallible then [.failed, .done []] else [.done []])

/-- A transfer by the signer, of funds that go somewhere else if `moves` says so. -/
def transferOutcomes (moves : t.AccountId → Bool) : Outcomes t :=
  match signer caller with
  | some who => [.failed, .done (if moves who then [.account who] else [])]
  | none => [.failed]

/-- A transfer that any account may ask for which the state lets: by its allowance, as the admin of
an asset, or because the transfer was approved before. -/
def entrustedOutcomes (moves : Bool) (p : Payer t.AccountId) : Outcomes t :=
  match signer caller with
  | some _ => [.failed, .done (if moves then [p] else [])]
  | none => [.failed]

def SystemCall.outcomes : SystemCall → Outcomes t
  | .setCode => OpaqueCall.outcomes caller (rootCall true)
  | .killPrefix => OpaqueCall.outcomes caller (rootCall false)
  | .other c => c.outcomes caller

def BalancesCall.outcomes : BalancesCall t.AccountId → Outcomes t
  | .transferAllowDeath dest value => transferOutcomes caller fun who => value != 0 && dest != who
  | .forceTransfer source dest value =>
    Outcome.require (isRoot caller)
      [.failed, .done (if value ≠ 0 ∧ dest ≠ source then [.account source] else [])]
  | .transferKeepAlive dest value => transferOutcomes caller fun who => value != 0 && dest != who
  | .transferAll dest => transferOutcomes caller fun who => dest != who
  | .forceAdjustTotalIssuance => OpaqueCall.outcomes caller (rootCall true)
  | .burn _ _ => transferOutcomes caller fun _ => false
  | .other c => c.outcomes caller

def AssetsCall.outcomes : AssetsCall t.AccountId t.AssetId → Outcomes t
  | .transfer _ target amount => transferOutcomes caller fun who => amount != 0 && target != who
  | .transferKeepAlive _ target amount =>
    transferOutcomes caller fun who => amount != 0 && target != who
  | .transferAll _ dest => transferOutcomes caller fun who => dest != who
  | .transferApproved _ owner destination amount =>
    entrustedOutcomes caller (amount != 0 && destination != owner) (.account owner)
  | .forceTransfer _ source dest amount =>
    entrustedOutcomes caller (amount != 0 && dest != source) (.account source)
  | .other c => c.outcomes caller

def TreasuryCall.outcomes : TreasuryCall → Outcomes t
  | .payout => entrustedOutcomes caller true .treasury
  | .other c => c.outcomes caller

def MessageQueueCall.outcomes : MessageQueueCall → Outcomes t
  | .executeOverweight => entrustedOutcomes caller true .queued
  | .other c => c.outcomes caller

def XTokensCall.outcomes (c : XTokensCall) : Outcomes t :=
  transferOutcomes caller fun _ => c.sends t

/-- Root may always set the number of candidates, and so may one body of the relay chain. -/
def CollatorSelectionCall.outcomes : CollatorSelectionCall → Outcomes t
  | .setDesiredCandidates _ =>
    if isRoot caller then [.done []]
    else OpaqueCall.outcomes caller ⟨false, false, false, true, true⟩
  | .other c => c.outcomes caller

end Plain

/-- What the EVM runs for `source`. The code may pay with the funds of its contracts. -/
def spendOutcomes (source : H160) (moves : Bool) (code : List (Payer H160)) : Outcomes .evm :=
  [.failed, .done [], .done ((if moves then [.account source] else []) ++ code)]

/-- The origin of an EVM call is signed by its source, `EnsureAccountId20`. A withdrawal counts as a
payment by its address, whoever the address is mapped to. -/
def EvmCall.outcomes (caller : Evm.RuntimeOrigin) : EvmCall → Outcomes .evm
  | .withdraw address value => spend address (value != 0) []
  | .call source target value => spend source (value != 0 && target != source) [.contract]
  | .create source value => spend source (value != 0) [.contract]
  | .create2 source value => spend source (value != 0) [.contract]
where
  spend (source : H160) (moves : Bool) (code : List (Payer H160)) : Outcomes .evm :=
    Outcome.require (signer caller == some source) (spendOutcomes source moves code)

/-- A transaction has its source in its origin. -/
def ensureEthereumTransaction : Evm.RuntimeOrigin → Option H160
  | .ethereum (.ethereumTransaction source) => some source
  | _ => none

def EthereumCall.outcomes (caller : Evm.RuntimeOrigin) : EthereumCall → Outcomes .evm
  | .transact action value =>
    match ensureEthereumTransaction caller with
    | some source => spendOutcomes source (value != 0 && action != .call source) [.contract]
    | none => [.failed]

def EvmAbstractionCall.outcomes (caller : Evm.RuntimeOrigin) : EvmAbstractionCall → Outcomes .evm
  | .evm c => c.outcomes caller
  | .ethereum c => c.outcomes caller
  | .baseFee c => OpaqueCall.outcomes (show Template.RuntimeOrigin .evm from caller) c

def evmAbstractionOutcomes : (t : Template) → t.RuntimeOrigin → t.EvmAbstractionCall → Outcomes t
  | .evm => EvmAbstractionCall.outcomes
  | .generic => fun _ c => c.elim

/-! ## Every call has an outcome -/

section Nonempty

variable (caller : t.RuntimeOrigin)

theorem OpaqueCall.outcomes_ne_nil (c : OpaqueCall) : OpaqueCall.outcomes caller c ≠ [] := by
  refine Outcome.require_ne_nil ?_ _
  split <;> exact List.cons_ne_nil _ _

theorem transferOutcomes_ne_nil (moves : t.AccountId → Bool) :
    transferOutcomes caller moves ≠ [] := by
  unfold transferOutcomes
  split <;> exact List.cons_ne_nil _ _

theorem SystemCall.outcomes_ne_nil (c : SystemCall) : c.outcomes caller ≠ [] := by
  cases c <;> exact OpaqueCall.outcomes_ne_nil caller _

theorem BalancesCall.outcomes_ne_nil (c : BalancesCall t.AccountId) : c.outcomes caller ≠ [] := by
  cases c with
  | forceTransfer source dest value => exact Outcome.require_ne_nil (List.cons_ne_nil _ _) _
  | forceAdjustTotalIssuance => exact OpaqueCall.outcomes_ne_nil caller _
  | other c => exact OpaqueCall.outcomes_ne_nil caller c
  | _ => exact transferOutcomes_ne_nil caller _

theorem entrustedOutcomes_ne_nil (moves : Bool) (p : Payer t.AccountId) :
    entrustedOutcomes caller moves p ≠ [] := by
  unfold entrustedOutcomes
  split <;> exact List.cons_ne_nil _ _

theorem AssetsCall.outcomes_ne_nil (c : AssetsCall t.AccountId t.AssetId) :
    c.outcomes caller ≠ [] := by
  cases c with
  | transferApproved => exact entrustedOutcomes_ne_nil caller _ _
  | forceTransfer => exact entrustedOutcomes_ne_nil caller _ _
  | other c => exact OpaqueCall.outcomes_ne_nil caller c
  | _ => exact transferOutcomes_ne_nil caller _

theorem TreasuryCall.outcomes_ne_nil (c : TreasuryCall) : c.outcomes caller ≠ [] := by
  cases c with
  | payout => exact entrustedOutcomes_ne_nil caller _ _
  | other c => exact OpaqueCall.outcomes_ne_nil caller c

theorem MessageQueueCall.outcomes_ne_nil (c : MessageQueueCall) : c.outcomes caller ≠ [] := by
  cases c with
  | executeOverweight => exact entrustedOutcomes_ne_nil caller _ _
  | other c => exact OpaqueCall.outcomes_ne_nil caller c

theorem CollatorSelectionCall.outcomes_ne_nil (c : CollatorSelectionCall) :
    c.outcomes caller ≠ [] := by
  cases c with
  | setDesiredCandidates max =>
    rw [CollatorSelectionCall.outcomes]
    split
    · exact List.cons_ne_nil _ _
    · exact OpaqueCall.outcomes_ne_nil caller _
  | other c => exact OpaqueCall.outcomes_ne_nil caller c

theorem EvmCall.spend_ne_nil (caller : Evm.RuntimeOrigin) (source : H160) (moves : Bool)
    (code : List (Payer H160)) : EvmCall.outcomes.spend caller source moves code ≠ [] :=
  Outcome.require_ne_nil (List.cons_ne_nil _ _) _

theorem EthereumCall.outcomes_ne_nil (caller : Evm.RuntimeOrigin) (c : EthereumCall) :
    c.outcomes caller ≠ [] := by
  cases c with
  | transact action value =>
    rw [EthereumCall.outcomes]
    split <;> exact List.cons_ne_nil _ _

theorem evmAbstractionOutcomes_ne_nil (c : t.EvmAbstractionCall) :
    evmAbstractionOutcomes t caller c ≠ [] := by
  cases t with
  | evm =>
    cases c with
    | evm c => cases c <;> exact EvmCall.spend_ne_nil caller _ _ _
    | ethereum c => exact c.outcomes_ne_nil caller
    | baseFee c => exact OpaqueCall.outcomes_ne_nil _ c
  | generic => exact c.elim

end Nonempty

end Runtime
end RuntimeTemplates
