import RuntimeTemplates.Genesis.Patch

/-!
# RuntimeTemplates.Node.Cli

How the EVM template's node chooses the genesis of a chain id: `Subcommand::contract_directory`
picks the predeployed contracts from the command line, and `load_spec` builds or reads the spec.

* `Cli.loadSpec`: the spec a command line loads for a chain id.
* `Cli.deploys`: the command line gets the entrypoint contract by default.
* `one_genesis_iff`: when two command lines without contract options load one genesis.
-/

namespace RuntimeTemplates
namespace Node

open Xcm Contracts Genesis

structure ExtendedBuildSpecCmd where
  predeployedContracts : Option String
  noPredeployedContracts : Bool
  deriving DecidableEq

inductive Subcommand where
  | buildSpec (cmd : ExtendedBuildSpecCmd)
  | checkBlock
  | exportBlocks
  | exportState
  | importBlocks
  | revert
  | purgeChain
  | exportGenesisHead
  | exportGenesisWasm
  | benchmark
  | tryRuntime
  deriving DecidableEq

structure Cli where
  subcommand : Option Subcommand
  deriving DecidableEq

def Subcommand.contractDirectory : Subcommand → ContractsPath
  | .buildSpec cmd =>
    match cmd.noPredeployedContracts, cmd.predeployedContracts with
    | true, _ => .none
    | false, none => .default
    | false, some path => .some path
  | _ => .none

inductive ChainType where
  | development
  | local
  deriving DecidableEq

/-- The extensions of a spec, and what it says about the genesis. -/
structure ChainSpec where
  name : String
  id : String
  chainType : ChainType
  protocolId : Option String
  relayChain : String
  paraId : UInt32
  genesis : GenesisPatch Evm.AccountId

/-- What the node reads from outside: its files, the keys of its seeds, the entrypoint contract and
the specs stored as JSON. -/
structure Environment where
  openFile : String → Option File
  entrypointContract : Contract
  xcmVersion : UInt32
  accountIdFromSeed : String → Evm.AccountId
  collatorKeysFromSeed : String → AuraId
  fromJsonFile : String → Except String ChainSpec

section Load

variable (env : Environment)

def initialCollators : List (Evm.AccountId × AuraId) :=
  [(env.accountIdFromSeed "Alice", env.collatorKeysFromSeed "Alice"),
    (env.accountIdFromSeed "Bob", env.collatorKeysFromSeed "Bob")]

/-- Alith, Baltathar, Charleth, Dorothy and Ethan. -/
def endowedAccounts : List Evm.AccountId :=
  [0xf24FF3a9CF04c71Dbc94D0b566f7A27B94566cac, 0x3Cd0A705a2DC65e5b1E1205896BaA2be8A07c6e0,
    0x798d4Ba9baf0064Ec19eB4F0a1a45785ae9D6DFc, 0x773539d4Ac0e786233D90A233654ccEE26a613D9,
    0xFf64d3F6efE2317EE2807d223a0Bdc4c0c49dfDB]

def testnetGenesis (contractsPath : ContractsPath) : Except Panic (GenesisPatch Evm.AccountId) :=
  Evm.testnetGenesis env.openFile env.entrypointContract env.xcmVersion (initialCollators env)
    endowedAccounts 0xf24FF3a9CF04c71Dbc94D0b566f7A27B94566cac 1000 contractsPath

def developmentConfig (contractsPath : ContractsPath) : Except Panic ChainSpec := do
  let genesis ← testnetGenesis env contractsPath
  return {
    name := "Development"
    id := "dev"
    chainType := .development
    protocolId := none
    relayChain := "paseo-local"
    paraId := 1000
    genesis }

def localTestnetConfig (contractsPath : ContractsPath) : Except Panic ChainSpec := do
  let genesis ← testnetGenesis env contractsPath
  return {
    name := "Local Testnet"
    id := "local_testnet"
    chainType := .local
    protocolId := some "template-local"
    relayChain := "paseo-local"
    paraId := 1000
    genesis }

def loadSpec (id : String) (contractsPath : ContractsPath) :
    Except Panic (Except String ChainSpec) :=
  match id with
  | "dev" => (developmentConfig env contractsPath).map .ok
  | "template-paseo" => (localTestnetConfig env contractsPath).map .ok
  | "" | "local" => (localTestnetConfig env contractsPath).map .ok
  | path => .ok (env.fromJsonFile path)

/-- `SubstrateCli::load_spec`. Without a subcommand the path is `ContractsPath::default()`. -/
def Cli.loadSpec (cli : Cli) (id : String) : Except Panic (Except String ChainSpec) :=
  Node.loadSpec env id ((cli.subcommand.map Subcommand.contractDirectory).getD .default)

def evmAccounts (r : Except Panic (Except String ChainSpec)) :
    Except Panic (Except String EvmAccounts) :=
  r.map fun spec => spec.map fun s => s.genesis.initialState.accounts

end Load

/-! ## Command lines without contract options -/

/-- Neither `--predeployed-contracts` nor `--no-predeployed-contracts`. -/
def Cli.NoContractOption (cli : Cli) : Prop :=
  ∀ cmd, cli.subcommand = some (.buildSpec cmd) →
    cmd.predeployedContracts = none ∧ cmd.noPredeployedContracts = false

/-- Running the node, or building a spec. -/
def Cli.deploys (cli : Cli) : Bool :=
  match cli.subcommand with
  | none => true
  | some (.buildSpec _) => true
  | some _ => false

/-- The chain ids that `load_spec` builds a spec for. -/
def builtIn : List String := ["dev", "template-paseo", "", "local"]

variable {env : Environment} {cli : Cli}

theorem contractsPath_of_deploys (h : cli.NoContractOption) (hd : cli.deploys = true) :
    (cli.subcommand.map Subcommand.contractDirectory).getD .default = .default := by
  obtain ⟨sub⟩ := cli
  cases sub with
  | none => rfl
  | some s =>
    cases s with
    | buildSpec cmd =>
      obtain ⟨hp, hn⟩ := h cmd rfl
      simp [Subcommand.contractDirectory, hp, hn]
    | _ => cases hd

theorem contractsPath_of_not_deploys (hd : cli.deploys = false) :
    (cli.subcommand.map Subcommand.contractDirectory).getD .default = .none := by
  obtain ⟨sub⟩ := cli
  cases sub with
  | none => cases hd
  | some s =>
    cases s with
    | buildSpec cmd => cases hd
    | _ => rfl

theorem evmAccounts_builtIn {id : String} (hid : id ∈ builtIn) (path : ContractsPath) :
    evmAccounts (loadSpec env id path) =
      (testnetGenesis env path).map fun p => .ok p.initialState.accounts := by
  simp only [builtIn, List.mem_cons, List.not_mem_nil, or_false] at hid
  rcases hid with rfl | rfl | rfl | rfl <;>
    simp only [loadSpec, developmentConfig, localTestnetConfig] <;>
    cases testnetGenesis env path <;> rfl

theorem loadSpec_file {id : String} (hid : id ∉ builtIn) (path : ContractsPath) :
    loadSpec env id path = .ok (env.fromJsonFile id) := by
  simp only [builtIn, List.mem_cons, List.not_mem_nil, or_false, not_or] at hid
  obtain ⟨h₁, h₂, h₃, h₄⟩ := hid
  unfold loadSpec
  split
  · exact absurd rfl h₁
  · exact absurd rfl h₂
  · exact absurd rfl h₃
  · exact absurd rfl h₄
  · rfl

/-- The accounts a command line gets for a chain id that the node builds. -/
def builtInAccounts (env : Environment) (cli : Cli) : EvmAccounts :=
  accountsOf <|
    if cli.deploys then Function.update (fun _ => none) entrypointAddress env.entrypointContract
    else fun _ => none

theorem evmAccounts_loadSpec (h : cli.NoContractOption) {id : String}
    (hid : id ∈ builtIn) :
    evmAccounts (cli.loadSpec env id) = .ok (.ok (builtInAccounts env cli)) := by
  rw [Cli.loadSpec, evmAccounts_builtIn hid, builtInAccounts]
  cases hd : cli.deploys with
  | true =>
    rw [contractsPath_of_deploys h hd]
    rfl
  | false =>
    rw [contractsPath_of_not_deploys hd]
    rfl

/-- The entrypoint is not at the address of a precompile, so it shows in the accounts. -/
theorem builtInAccounts_entrypoint (env : Environment) (cli : Cli) :
    (builtInAccounts env cli entrypointAddress).isSome = cli.deploys := by
  have hne : entrypointAddress ∉ usedAddresses := by decide
  rw [builtInAccounts, accountsOf_eq, if_neg hne]
  cases cli.deploys <;> simp

/-- Two command lines without contract options load one genesis for a chain id exactly when the
spec comes from a file, or both or neither of them run the node or build the spec. -/
theorem one_genesis_iff (env : Environment) (c₁ c₂ : Cli) (id : String)
    (h₁ : c₁.NoContractOption) (h₂ : c₂.NoContractOption) :
    evmAccounts (c₁.loadSpec env id) = evmAccounts (c₂.loadSpec env id) ↔
      id ∉ builtIn ∨ c₁.deploys = c₂.deploys := by
  by_cases hid : id ∈ builtIn
  · rw [evmAccounts_loadSpec h₁ hid, evmAccounts_loadSpec h₂ hid]
    constructor
    · intro h
      have ha : builtInAccounts env c₁ = builtInAccounts env c₂ := by simpa using h
      right
      rw [← builtInAccounts_entrypoint env c₁, ha, builtInAccounts_entrypoint]
    · rintro (hf | hd)
      · exact absurd hid hf
      · simp only [builtInAccounts, hd]
  · refine iff_of_true ?_ (.inl hid)
    rw [Cli.loadSpec, Cli.loadSpec, loadSpec_file hid, loadSpec_file hid]

def sampleEnvironment : Environment where
  openFile _ := none
  entrypointContract := .hardhat ⟨[], [0x60, 0x80]⟩
  xcmVersion := 5
  accountIdFromSeed _ := 1
  collatorKeysFromSeed _ := 2
  fromJsonFile _ := .error "No such file or directory"

theorem one_genesis_build_spec :
    evmAccounts ((Cli.mk none).loadSpec sampleEnvironment "local") =
      evmAccounts ((Cli.mk (some (.buildSpec ⟨none, false⟩))).loadSpec sampleEnvironment "local") :=
  (one_genesis_iff sampleEnvironment ⟨none⟩ ⟨some (.buildSpec ⟨none, false⟩)⟩ "local"
    (fun _ h => nomatch h) (fun _ h => by cases h; exact ⟨rfl, rfl⟩)).mpr (.inr rfl)

/-- The genesis head that is exported is not the one of the chain that the node runs. -/
theorem exported_genesis_differs :
    (Cli.mk none).NoContractOption ∧ (Cli.mk (some .exportGenesisHead)).NoContractOption ∧
      evmAccounts ((Cli.mk none).loadSpec sampleEnvironment "local") ≠
        evmAccounts ((Cli.mk (some .exportGenesisHead)).loadSpec sampleEnvironment "local") := by
  have h₁ : (Cli.mk none).NoContractOption := fun _ h => nomatch h
  have h₂ : (Cli.mk (some .exportGenesisHead)).NoContractOption := fun _ h => nomatch h
  refine ⟨h₁, h₂, ?_⟩
  rw [evmAccounts_loadSpec h₁ (by decide), evmAccounts_loadSpec h₂ (by decide)]
  intro h
  have ha := Except.ok.inj (Except.ok.inj h)
  have hs := builtInAccounts_entrypoint sampleEnvironment ⟨none⟩
  rw [ha, builtInAccounts_entrypoint] at hs
  cases hs

end Node
end RuntimeTemplates
