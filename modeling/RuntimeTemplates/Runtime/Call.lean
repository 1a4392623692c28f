import RuntimeTemplates.Origins

/-!
# RuntimeTemplates.Runtime.Call

`RuntimeCall`: the calls of the pallets that `construct_runtime` collects. A pallet whose calls
carry other calls is generic in the type of these, as in the code, and `RuntimeCall` ties the knot.

Calls are given with the arguments that a filter or the dispatch of a call looks at. A call of
which neither does is an `OpaqueCall`: the origins it accepts, and whether it can fail.
-/

namespace RuntimeTemplates
namespace Runtime

open Xcm

/-- A call by the kinds of callers it accepts; `pallet` are the origins of pallets. -/
structure OpaqueCall where
  root : Bool
  signed : Bool
  none : Bool
  pallet : Bool
  fallible : Bool
  deriving DecidableEq

/-- The types of proxy of both templates. -/
inductive ProxyType where
  | any
  | nonTransfer
  | cancelProxy
  | collator
  deriving DecidableEq

structure Weight where
  refTime : Nat
  proofSize : Nat
  deriving DecidableEq

def Weight.allLte (w other : Weight) : Bool :=
  w.refTime ≤ other.refTime && w.proofSize ≤ other.proofSize

/-! ## Pallets without nested calls -/

inductive SystemCall where
  | setCode
  | killPrefix
  | other (c : OpaqueCall)
  deriving DecidableEq

inductive BalancesCall (AccountId : Type) where
  | transferAllowDeath (dest : AccountId) (value : Nat)
  | forceTransfer (source dest : AccountId) (value : Nat)
  | transferKeepAlive (dest : AccountId) (value : Nat)
  | transferAll (dest : AccountId)
  | forceAdjustTotalIssuance
  | burn (value : Nat) (keepAlive : Bool)
  | other (c : OpaqueCall)
  deriving DecidableEq

inductive AssetsCall (AccountId AssetId : Type) where
  | transfer (id : AssetId) (target : AccountId) (amount : Nat)
  | transferKeepAlive (id : AssetId) (target : AccountId) (amount : Nat)
  | transferAll (id : AssetId) (dest : AccountId)
  | transferApproved (id : AssetId) (owner destination : AccountId) (amount : Nat)
  | forceTransfer (id : AssetId) (source dest : AccountId) (amount : Nat)
  | other (c : OpaqueCall)
  deriving DecidableEq

inductive XTokensCall where
  | transfer (amount : Nat)
  | transferMultiasset (asset : Asset)
  | transferWithFee (amount fee : Nat)
  | transferMultiassetWithFee (asset fee : Asset)
  | transferMulticurrencies (amounts : List Nat) (feeItem : Nat)
  | transferMultiassets (assets : List Asset) (feeItem : Nat)
  deriving DecidableEq

inductive TreasuryCall where
  | payout
  | other (c : OpaqueCall)
  deriving DecidableEq

inductive MessageQueueCall where
  | executeOverweight
  | other (c : OpaqueCall)
  deriving DecidableEq

inductive CollatorSelectionCall where
  | setDesiredCandidates (max : UInt32)
  | other (c : OpaqueCall)
  deriving DecidableEq

inductive EvmCall where
  | withdraw (address : H160) (value : Nat)
  | call (source target : H160) (value : Nat)
  | create (source : H160) (value : Nat)
  | create2 (source : H160) (value : Nat)
  deriving DecidableEq

inductive TransactionAction where
  | call (target : H160)
  | create
  deriving DecidableEq

inductive EthereumCall where
  | transact (action : TransactionAction) (value : Nat)
  deriving DecidableEq

/-- The pallets of the EVM abstraction, which the generic template does not have. -/
inductive EvmAbstractionCall where
  | evm (c : EvmCall)
  | ethereum (c : EthereumCall)
  | baseFee (c : OpaqueCall)
  deriving DecidableEq

/-- The pallets of both templates of which every call is opaque here. -/
inductive OtherPallet where
  | timestamp
  | preimage
  | parachainSystem
  | session
  | assetManager
  | oracle
  | oracleMembership
  | convictionVoting
  | xcmpQueue
  | cumulusXcm
  | xcmTransactor
  | xcmWeightTrader
  deriving DecidableEq

/-! ## Pallets with nested calls -/

inductive UtilityCall (PalletsOrigin Call : Type) where
  | batch (calls : List Call)
  | asDerivative (index : UInt16) (call : Call)
  | batchAll (calls : List Call)
  | dispatchAs (asOrigin : PalletsOrigin) (call : Call)
  | forceBatch (calls : List Call)
  | withWeight (call : Call)
  | ifElse (main fallback : Call)
  | dispatchAsFallible (asOrigin : PalletsOrigin) (call : Call)

inductive SudoCall (AccountId Call : Type) where
  | sudo (call : Call)
  | sudoUncheckedWeight (call : Call)
  | sudoAs (who : AccountId) (call : Call)
  | other (c : OpaqueCall)

inductive ProxyCall (AccountId Call : Type) where
  | proxy (real : AccountId) (forceProxyType : Option ProxyType) (call : Call)
  | addProxy (delegate : AccountId) (proxyType : ProxyType)
  | removeProxy (delegate : AccountId) (proxyType : ProxyType)
  | removeProxies
  | killPure
  | rejectAnnouncement (delegate : AccountId)
  | proxyAnnounced (delegate real : AccountId) (forceProxyType : Option ProxyType) (call : Call)
  | other (c : OpaqueCall)

structure Timepoint where
  height : UInt32
  index : UInt32
  deriving DecidableEq

inductive MultisigCall (AccountId Call : Type) where
  | asMultiThreshold1 (otherSignatories : List AccountId) (call : Call)
  | asMulti (threshold : UInt16) (otherSignatories : List AccountId)
      (maybeTimepoint : Option Timepoint) (call : Call) (maxWeight : Weight)
  | other (c : OpaqueCall)

inductive SchedulerCall (Call : Type) where
  | schedule (call : Call)
  | scheduleNamed (call : Call)
  | scheduleAfter (call : Call)
  | scheduleNamedAfter (call : Call)
  | other (c : OpaqueCall)

inductive WhitelistCall (Call : Type) where
  | dispatchWhitelistedCall
  | dispatchWhitelistedCallWithPreimage (call : Call)
  | other (c : OpaqueCall)

/-- A proposal that is given by its hash is the call with that hash. -/
inductive ReferendaCall (PalletsOrigin Call : Type) where
  | submit (proposalOrigin : PalletsOrigin) (proposal : Call)
  | other (c : OpaqueCall)

/-- What a message does to the accounts here: it takes assets from its origin, for another account
or chain, and it dispatches calls; each with the interior that the origin has been narrowed to. -/
inductive Instruction (Call : Type) where
  | withdrawAsset (interior : Junctions)
  | transact (interior : Junctions) (originKind : OriginKind) (call : Call)

inductive PolkadotXcmCall (Call : Type) where
  | teleportAssets (assets : List Asset) (feeAssetItem : Nat)
  | reserveTransferAssets (assets : List Asset) (feeAssetItem : Nat)
  | limitedReserveTransferAssets (assets : List Asset) (feeAssetItem : Nat)
  | limitedTeleportAssets (assets : List Asset) (feeAssetItem : Nat)
  | transferAssets (assets : List Asset) (feeAssetItem : Nat)
  | transferAssetsUsingTypeAndThen (assets : List Asset) (remoteFeesId : Location)
  | execute (message : List (Instruction Call))
  | other (c : OpaqueCall)

end Runtime

abbrev Template.EvmAbstractionCall : Template → Type
  | .evm => Runtime.EvmAbstractionCall
  | .generic => Empty

namespace Runtime

inductive RuntimeCall (t : Template) where
  | system (c : SystemCall)
  | scheduler (c : SchedulerCall (RuntimeCall t))
  | proxy (c : ProxyCall t.AccountId (RuntimeCall t))
  | balances (c : BalancesCall t.AccountId)
  | utility (c : UtilityCall t.RuntimeOrigin (RuntimeCall t))
  | multisig (c : MultisigCall t.AccountId (RuntimeCall t))
  | assets (c : AssetsCall t.AccountId t.AssetId)
  | collatorSelection (c : CollatorSelectionCall)
  | sudo (c : SudoCall t.AccountId (RuntimeCall t))
  | whitelist (c : WhitelistCall (RuntimeCall t))
  | treasury (c : TreasuryCall)
  | referenda (c : ReferendaCall t.RuntimeOrigin (RuntimeCall t))
  | messageQueue (c : MessageQueueCall)
  | polkadotXcm (c : PolkadotXcmCall (RuntimeCall t))
  | xTokens (c : XTokensCall)
  | evmAbstraction (c : t.EvmAbstractionCall)
  | other (pallet : OtherPallet) (c : OpaqueCall)

end Runtime
end RuntimeTemplates
