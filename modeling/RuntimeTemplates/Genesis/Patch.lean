import RuntimeTemplates.Genesis.Accounts
import RuntimeTemplates.Template

/-!
# RuntimeTemplates.Genesis.Patch

The genesis patches that the presets of a runtime (`genesis_config_presets.rs`) and the node of the
template (`chain_spec.rs`) build from the same arguments, and whether they describe one state.

A pallet that a patch leaves out starts from its default, so `initialState` is what a patch means.

* `evm_initialState`: the three fields in which the two patches of the EVM template differ.
* `builders_agree_iff`: the two patches agree in the generic template only.
-/

namespace RuntimeTemplates

open Xcm Contracts

namespace Genesis

abbrev AuraId := H256

structure SessionKeys where
  aura : AuraId
  deriving DecidableEq

/-- The fields of the patches, under their pallets. The pallets that only some patches mention are
optional. -/
structure GenesisPatch (AccountId : Type) where
  balances : List (AccountId × Nat)
  parachainId : UInt32
  invulnerables : List AccountId
  candidacyBond : Nat
  keys : List (AccountId × AccountId × SessionKeys)
  chainId : Option UInt64
  accounts : Option EvmAccounts
  safeXcmVersion : Option UInt32
  sudoKey : Option AccountId

/-- The state a patch describes: what it leaves out has the pallet's default. -/
structure InitialState (AccountId : Type) where
  balances : List (AccountId × Nat)
  parachainId : UInt32
  invulnerables : List AccountId
  candidacyBond : Nat
  keys : List (AccountId × AccountId × SessionKeys)
  chainId : UInt64
  accounts : EvmAccounts
  safeXcmVersion : Option UInt32
  sudoKey : Option AccountId

def GenesisPatch.initialState {AccountId : Type} (p : GenesisPatch AccountId) :
    InitialState AccountId where
  balances := p.balances
  parachainId := p.parachainId
  invulnerables := p.invulnerables
  candidacyBond := p.candidacyBond
  keys := p.keys
  chainId := p.chainId.getD 0
  accounts := p.accounts.getD fun _ => none
  safeXcmVersion := p.safeXcmVersion
  sudoKey := p.sudoKey

def templateSessionKeys (keys : AuraId) : SessionKeys := { aura := keys }

end Genesis

open Genesis

/-! ## The EVM template -/

namespace Evm

/-- `testnet_genesis` of the runtime's presets. -/
def presetTestnetGenesis (xcmVersion : UInt32) (invulnerables : List (AccountId × AuraId))
    (endowedAccounts : List AccountId) (root : AccountId) (id : UInt32) :
    GenesisPatch AccountId where
  balances := endowedAccounts.map fun k => (k, 1 <<< 60)
  parachainId := id
  invulnerables := invulnerables.map fun (acc, _) => acc
  candidacyBond := existentialDeposit * 16
  keys := invulnerables.map fun (acc, aura) => (acc, acc, templateSessionKeys aura)
  chainId := none
  accounts := none
  safeXcmVersion := some xcmVersion
  sudoKey := some root

/-- `testnet_genesis` of the node. Contracts that cannot be parsed are logged and left out. -/
def testnetGenesis (openFile : String → Option File) (entrypointContract : Contract)
    (xcmVersion : UInt32) (invulnerables : List (AccountId × AuraId))
    (endowedAccounts : List AccountId) (root : AccountId) (id : UInt32)
    (contractsPath : ContractsPath) : Except Panic (GenesisPatch AccountId) := do
  let contracts ← parseContracts openFile entrypointContract contractsPath
  let contracts := match contracts with
    | .ok contracts => contracts
    | .error _ => fun _ => none
  let candidacyBond := 1000000000 * 16
  return {
    balances := endowedAccounts.map fun k => (k, 1 <<< 60)
    parachainId := id
    invulnerables := invulnerables.map fun (acc, _) => acc
    candidacyBond
    keys := invulnerables.map fun (acc, aura) => (acc, acc, templateSessionKeys aura)
    chainId := some 9999
    accounts := some (accountsOf contracts)
    safeXcmVersion := some xcmVersion
    sudoKey := some root }

end Evm

/-! ## The generic template -/

namespace Generic

def presetTestnetGenesis (xcmVersion : UInt32) (invulnerables : List (AccountId × AuraId))
    (endowedAccounts : List AccountId) (root : AccountId) (id : UInt32) :
    GenesisPatch AccountId where
  balances := endowedAccounts.map fun k => (k, 1 <<< 60)
  parachainId := id
  invulnerables := invulnerables.map fun (acc, _) => acc
  candidacyBond := existentialDeposit * 16
  keys := invulnerables.map fun (acc, aura) => (acc, acc, templateSessionKeys aura)
  chainId := none
  accounts := none
  safeXcmVersion := some xcmVersion
  sudoKey := some root

def testnetGenesis (xcmVersion : UInt32) (invulnerables : List (AccountId × AuraId))
    (endowedAccounts : List AccountId) (root : AccountId) (id : UInt32) :
    GenesisPatch AccountId where
  balances := endowedAccounts.map fun k => (k, 1 <<< 60)
  parachainId := id
  invulnerables := invulnerables.map fun (acc, _) => acc
  candidacyBond := existentialDeposit * 16
  keys := invulnerables.map fun (acc, aura) => (acc, acc, templateSessionKeys aura)
  chainId := none
  accounts := none
  safeXcmVersion := some xcmVersion
  sudoKey := some root

end Generic

namespace Template

def presetTestnetGenesis : (t : Template) → UInt32 → List (t.AccountId × AuraId) →
    List t.AccountId → t.AccountId → UInt32 → GenesisPatch t.AccountId
  | .evm => Evm.presetTestnetGenesis
  | .generic => Generic.presetTestnetGenesis

/-- The node's patch, without predeployed contracts. -/
def testnetGenesis : (t : Template) → (String → Option File) → Contract → UInt32 →
    List (t.AccountId × AuraId) → List t.AccountId → t.AccountId → UInt32 →
    Except Panic (GenesisPatch t.AccountId)
  | .evm => fun openFile entrypointContract xcmVersion invulnerables endowedAccounts root id =>
    Evm.testnetGenesis openFile entrypointContract xcmVersion invulnerables endowedAccounts root id
      .none
  | .generic => fun _ _ xcmVersion invulnerables endowedAccounts root id =>
    .ok (Generic.testnetGenesis xcmVersion invulnerables endowedAccounts root id)

end Template

/-! ## Where the two builders agree -/

namespace Genesis

variable {openFile : String → Option File} {c : Contract} {xcmVersion : UInt32}
  {root : Evm.AccountId} {id : UInt32} {invulnerables : List (Evm.AccountId × AuraId)}
  {endowedAccounts : List Evm.AccountId}

theorem evm_initialState {p : GenesisPatch Evm.AccountId}
    (h : Evm.testnetGenesis openFile c xcmVersion invulnerables endowedAccounts root id .none =
      .ok p) :
    p.initialState =
      { (Evm.presetTestnetGenesis xcmVersion invulnerables endowedAccounts root id).initialState with
        candidacyBond := 16000000000
        chainId := 9999
        accounts := accountsOf fun _ => none } := by
  obtain rfl := Except.ok.inj h
  rfl

/-- The two builders of a template describe the same initial state. -/
def BuildersAgree (t : Template) (openFile : String → Option File) (c : Contract)
    (xcmVersion : UInt32) (invulnerables : List (t.AccountId × AuraId))
    (endowedAccounts : List t.AccountId) (root : t.AccountId) (id : UInt32) : Prop :=
  ∃ p, t.testnetGenesis openFile c xcmVersion invulnerables endowedAccounts root id = .ok p ∧
    p.initialState =
      (t.presetTestnetGenesis xcmVersion invulnerables endowedAccounts root id).initialState

theorem builders_agree_iff (t : Template) (openFile : String → Option File) (c : Contract)
    (xcmVersion : UInt32) (invulnerables : List (t.AccountId × AuraId))
    (endowedAccounts : List t.AccountId) (root : t.AccountId) (id : UInt32) :
    BuildersAgree t openFile c xcmVersion invulnerables endowedAccounts root id ↔
      t = .generic := by
  cases t with
  | evm =>
    refine iff_of_false ?_ (by simp)
    rintro ⟨p, hp, hs⟩
    -- the candidacy bond is one of the three fields that differ
    rw [evm_initialState hp] at hs
    exact absurd (congrArg InitialState.candidacyBond hs)
      (by simp [GenesisPatch.initialState, Template.presetTestnetGenesis,
        Evm.presetTestnetGenesis, Evm.existentialDeposit])
  | generic => exact iff_of_true ⟨_, rfl, rfl⟩ rfl

/-- Without collators and endowed accounts, the patches of the EVM template differ in each of the
three fields. -/
theorem evm_builders_differ :
    ∃ p, Evm.testnetGenesis (fun _ => none) (.hardhat ⟨[], []⟩) 5 [] [] 1 1000 .none = .ok p ∧
      p.initialState.candidacyBond ≠
        (Evm.presetTestnetGenesis 5 [] [] 1 1000).initialState.candidacyBond ∧
      p.initialState.chainId ≠ (Evm.presetTestnetGenesis 5 [] [] 1 1000).initialState.chainId ∧
      p.initialState.accounts (hash 1) ≠
        (Evm.presetTestnetGenesis 5 [] [] 1 1000).initialState.accounts (hash 1) :=
  ⟨_, rfl, by decide, by decide, by decide⟩

end Genesis

end RuntimeTemplates
