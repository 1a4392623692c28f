import RuntimeTemplates.Contracts.Parse

/-!
# RuntimeTemplates.Genesis.Accounts

The EVM accounts of the genesis: `evm.accounts` in `testnet_genesis` of the EVM template's node, a
map collected from the predeployed contracts followed by the precompiles, so that a precompile
replaces a contract at its address.

* `accountsOf_eq`: what the map has at each address.
-/

namespace RuntimeTemplates
namespace Genesis

open Xcm Contracts

structure GenesisAccount where
  nonce : BitVec 256
  balance : BitVec 256
  storage : List (H256 × H256)
  code : List UInt8
  deriving DecidableEq

abbrev EvmAccounts := H160 → Option GenesisAccount

/-- An account with defaults for everything but its code. -/
def GenesisAccount.ofCode (code : List UInt8) : GenesisAccount where
  nonce := 0
  balance := 0
  storage := []
  code

/-- `H160::from_low_u64_be` -/
def hash (a : UInt64) : H160 := a.toBitVec.setWidth 160

def usedAddresses : List H160 := [hash 1, hash 2, hash 3, hash 4, hash 5, hash 1024, hash 1025]

/-- Bytecode to revert without returning data. -/
def revertStub : List UInt8 := [0x60, 0x00, 0x60, 0x00, 0xFD]

def accountsOf (contracts : ContractMap) : EvmAccounts :=
  usedAddresses.foldl (fun accounts a => Function.update accounts a (some (.ofCode revertStub)))
    fun a => (contracts a).map fun contract => .ofCode contract.bytecode

theorem foldl_stub (l : List H160) (accounts : EvmAccounts) (a : H160) :
    l.foldl (fun accounts a => Function.update accounts a (some (.ofCode revertStub))) accounts a =
      if a ∈ l then some (.ofCode revertStub) else accounts a := by
  induction l generalizing accounts with
  | nil => rfl
  | cons b l ih =>
    rw [List.foldl_cons, ih]
    by_cases hl : a ∈ l
    · simp [hl]
    · by_cases hb : a = b
      · simp [hb]
      · simp [hl, hb]

theorem accountsOf_eq (contracts : ContractMap) (a : H160) :
    accountsOf contracts a =
      if a ∈ usedAddresses then some (.ofCode revertStub)
      else (contracts a).map fun contract => .ofCode contract.bytecode :=
  foldl_stub usedAddresses _ a

end Genesis
end RuntimeTemplates
