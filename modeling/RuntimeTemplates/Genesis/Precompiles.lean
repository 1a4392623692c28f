import RuntimeTemplates.Genesis.Patch

/-!
# RuntimeTemplates.Genesis.Precompiles

`precompiles.rs` of the EVM template: the precompiles by their addresses, dispatch and detection.
The addresses are written down three times, in the arms of `execute`, in `used_addresses` and, for
the stubs of the genesis, through `used_addresses` again.

* `execute_isSome`, `isPrecompile_iff`: both know exactly the addresses in use.
* `precompile_addresses_agree`: so does the genesis, whatever contracts are deployed in it.
* `genesis_accounts_fixed`: which contracts these are; no file has a say in it.
-/

namespace RuntimeTemplates
namespace Genesis

open Xcm Contracts

inductive Precompile where
  | ecRecover
  | sha256
  | ripemd160
  | identity
  | modexp
  | sha3FIPS256
  | ecRecoverPublicKey
  deriving DecidableEq

class PrecompileHandle (Handle : Type) where
  codeAddress : Handle → H160

inductive IsPrecompileResult where
  | answer (isPrecompile : Bool) (extraCost : UInt64)
  | outOfGas
  deriving DecidableEq

section PrecompileSet

variable {Handle Result : Type} [PrecompileHandle Handle]

/-- `PrecompileSet::execute`; `run` is the `execute` of each precompile. -/
def execute (run : Precompile → Handle → Result) (handle : Handle) : Option Result :=
  let a := PrecompileHandle.codeAddress handle
  -- Ethereum precompiles
  if a = hash 1 then some (run .ecRecover handle)
  else if a = hash 2 then some (run .sha256 handle)
  else if a = hash 3 then some (run .ripemd160 handle)
  else if a = hash 4 then some (run .identity handle)
  else if a = hash 5 then some (run .modexp handle)
  -- Frontier precompiles
  else if a = hash 1024 then some (run .sha3FIPS256 handle)
  else if a = hash 1025 then some (run .ecRecoverPublicKey handle)
  else none

def isPrecompile (address : H160) (_gas : UInt64) : IsPrecompileResult :=
  .answer (usedAddresses.contains address) 0

theorem isPrecompile_iff {a : H160} {gas : UInt64} :
    isPrecompile a gas = .answer true 0 ↔ a ∈ usedAddresses := by
  simp [isPrecompile]

theorem execute_isSome (run : Precompile → Handle → Result) (handle : Handle) :
    (execute run handle).isSome = true ↔ PrecompileHandle.codeAddress handle ∈ usedAddresses := by
  simp only [execute, usedAddresses, List.mem_cons, List.not_mem_nil, or_false]
  split_ifs <;> simp [*]

end PrecompileSet

/-- A precompile's stub cannot be replaced; elsewhere the map of contracts decides. -/
theorem stub_forced_iff {a : H160} :
    (∀ contracts, accountsOf contracts a = some (.ofCode revertStub)) ↔ a ∈ usedAddresses := by
  constructor
  · intro h
    by_contra ha
    have hnone := h fun _ => none
    rw [accountsOf_eq, if_neg ha] at hnone
    cases hnone
  · intro ha contracts
    rw [accountsOf_eq, if_pos ha]

theorem accountsOf_defaults {contracts : ContractMap} {a : H160} {account : GenesisAccount}
    (h : accountsOf contracts a = some account) :
    account.nonce = 0 ∧ account.balance = 0 ∧ account.storage = [] := by
  rw [accountsOf_eq] at h
  split at h
  · cases h
    exact ⟨rfl, rfl, rfl⟩
  · obtain ⟨contract, -, rfl⟩ := Option.map_eq_some_iff.mp h
    exact ⟨rfl, rfl, rfl⟩

/-- The node has a genesis. Its accounts are those of the contracts it could parse, if any. -/
theorem testnetGenesis_accounts (openFile : String → Option File) (c : Contract)
    (xcmVersion : UInt32) (invulnerables : List (Evm.AccountId × AuraId))
    (endowedAccounts : List Evm.AccountId) (root : Evm.AccountId) (id : UInt32)
    (path : ContractsPath) :
    ∃ r p, parseContracts openFile c path = .ok r ∧
      Evm.testnetGenesis openFile c xcmVersion invulnerables endowedAccounts root id path = .ok p ∧
      p.accounts = some (accountsOf (r.toOption.getD fun _ => none)) := by
  obtain ⟨r, hr, -⟩ := parseContracts_ok openFile c path
  unfold Evm.testnetGenesis
  rw [hr]
  refine ⟨r, _, rfl, rfl, ?_⟩
  cases r with
  | ok contracts => rfl
  | error e => rfl

/-- Dispatch, detection and genesis stubs know the same addresses. -/
theorem precompile_addresses_agree {Handle Result : Type} [PrecompileHandle Handle]
    (run : Precompile → Handle → Result) (gas : UInt64) :
    (∀ handle : Handle, (execute run handle).isSome = true ↔
      isPrecompile (PrecompileHandle.codeAddress handle) gas = .answer true 0) ∧
    (∀ a, isPrecompile a gas = .answer true 0 ↔
      ∀ contracts, accountsOf contracts a = some (.ofCode [0x60, 0x00, 0x60, 0x00, 0xFD])) ∧
    (∀ contracts a, isPrecompile a gas ≠ .answer true 0 →
      accountsOf contracts a = (contracts a).map fun contract => .ofCode contract.bytecode) ∧
    (∀ contracts a account, accountsOf contracts a = some account →
      account.nonce = 0 ∧ account.balance = 0 ∧ account.storage = []) ∧
    ∀ openFile c xcmVersion invulnerables endowedAccounts root id path,
      ∃ r p, parseContracts openFile c path = .ok r ∧
        Evm.testnetGenesis openFile c xcmVersion invulnerables endowedAccounts root id path =
          .ok p ∧
        p.accounts = some (accountsOf (r.toOption.getD fun _ => none)) := by
  refine ⟨fun handle => ?_, fun a => ?_, fun contracts a ha => ?_, ?_, testnetGenesis_accounts⟩
  · rw [execute_isSome, isPrecompile_iff]
  · rw [isPrecompile_iff]
    exact stub_forced_iff.symm
  · rw [Ne, isPrecompile_iff] at ha
    rw [accountsOf_eq, if_neg ha]
  · intro contracts a account h
    exact accountsOf_defaults h

/-- Contracts are listed at the address of a precompile and at the next one that is free. -/
def sampleContracts : ContractMap := fun a =>
  if a = hash 5 ∨ a = hash 6 then some (.hardhat ⟨[], [0x60, 0x01]⟩) else none

theorem sampleContracts_accounts :
    accountsOf sampleContracts (hash 5) = some (.ofCode [0x60, 0x00, 0x60, 0x00, 0xFD]) ∧
      accountsOf sampleContracts (hash 6) = some (.ofCode [0x60, 0x01]) ∧
      accountsOf sampleContracts (hash 7) = none ∧
      ∃ p, Evm.testnetGenesis (fun _ => none) (.hardhat ⟨[], [0x60, 0x01]⟩) 5 [] [] 1 1000
        .default = .ok p := by
  obtain ⟨-, hstub, hother, -, hgenesis⟩ :=
    @precompile_addresses_agree H160 Precompile ⟨id⟩ (fun p _ => p) 0
  refine ⟨(hstub (hash 5)).mp (by decide) sampleContracts, ?_, ?_, ?_⟩
  · rw [hother sampleContracts (hash 6) (by decide)]
    decide
  · rw [hother sampleContracts (hash 7) (by decide)]
    decide
  · obtain ⟨r, p, -, hp, -⟩ := hgenesis (fun _ => none) (.hardhat ⟨[], [0x60, 0x01]⟩) 5 [] [] 1
      1000 .default
    exact ⟨p, hp⟩

/-- Whatever files there are, the node has a genesis, and the accounts in it are the stubs of the
precompiles and, unless other contracts are asked for, the entry point. -/
theorem genesis_accounts_fixed (openFile : String → Option File) (c : Contract)
    (xcmVersion : UInt32) (invulnerables : List (Evm.AccountId × AuraId))
    (endowedAccounts : List Evm.AccountId) (root : Evm.AccountId) (id : UInt32)
    (path : ContractsPath) :
    ∃ p, Evm.testnetGenesis openFile c xcmVersion invulnerables endowedAccounts root id path =
        .ok p ∧
      ∀ a, p.initialState.accounts a =
        if a ∈ usedAddresses then some (.ofCode revertStub)
        else if path = .default ∧ a = entrypointAddress then some (.ofCode c.bytecode)
        else none := by
  obtain ⟨r, hr, hmap⟩ := parseContracts_ok openFile c path
  obtain ⟨r', p, hr', hp, haccounts⟩ :=
    testnetGenesis_accounts openFile c xcmVersion invulnerables endowedAccounts root id path
  obtain rfl : r = r' := Except.ok.inj (hr.symm.trans hr')
  refine ⟨p, hp, fun a => ?_⟩
  have hstate : p.initialState.accounts = accountsOf (r.toOption.getD fun _ => none) := by
    rw [GenesisPatch.initialState, haccounts, Option.getD_some]
  rw [hstate, accountsOf_eq, hmap]
  split_ifs <;> rfl

end Genesis
end RuntimeTemplates
