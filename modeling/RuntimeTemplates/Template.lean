import RuntimeTemplates.Xcm.Location
import Mathlib.Logic.Function.Basic

/-!
# RuntimeTemplates.Template

The two runtimes of the repository and the constants their `xcm_config.rs` declares with
`parameter_types!`. Where both files declare the same constant, each template keeps its own copy
under its namespace, and `Template` selects one.

The index of a pallet comes from `construct_runtime`, which numbers the pallets of a runtime with
distinct indices: `PalletInfo` carries that as a field.
-/

namespace RuntimeTemplates

open Xcm

inductive Template where
  | evm
  | generic
  deriving DecidableEq

/-- The pallets whose index a location of the configuration mentions. -/
inductive Pallet where
  | balances
  | assets
  | polkadotXcm
  | erc20XcmBridge
  deriving DecidableEq

structure PalletInfo where
  index : Pallet → UInt8
  index_injective : Function.Injective index

namespace PalletInfo

/-- `PalletInstance(<P as PalletInfoAccess>::index() as u8).into()`. -/
def location (info : PalletInfo) (p : Pallet) : Location := ⟨0, .x1 (.palletInstance (info.index p))⟩

@[simp] theorem location_parents (info : PalletInfo) (p : Pallet) :
    (info.location p).parents = 0 := rfl

@[simp] theorem location_items (info : PalletInfo) (p : Pallet) :
    (info.location p).interior.items = [.palletInstance (info.index p)] := rfl

end PalletInfo

/-- The locations the reserve rules of one template read. -/
structure ReserveConfig where
  assetHubLocation : Location
  relayLocation : Location
  selfLocationAbsolute : Location

namespace Evm

abbrev AssetId := BitVec 128

abbrev AccountId := H160

def millicents : Nat := 1000000000

def cents : Nat := 1000 * millicents

def existentialDeposit : Nat := 0

def assetDeposit : Nat := 10 * cents

def maxAssetsForTransfer : Nat := 2

def assetHubLocation : Location := ⟨1, .x1 (.parachain 1000)⟩

def relayLocation : Location := .parent

def selfLocationAbsolute (selfId : UInt32) : Location := ⟨1, .x1 (.parachain selfId)⟩

def reserveConfig (selfId : UInt32) : ReserveConfig :=
  ⟨assetHubLocation, relayLocation, selfLocationAbsolute selfId⟩

end Evm

namespace Generic

abbrev AssetId := BitVec 32

abbrev AccountId := H256

def millicents : Nat := 1000000000

def cents : Nat := 1000 * millicents

def existentialDeposit : Nat := millicents

def assetDeposit : Nat := 10 * cents

def maxAssetsForTransfer : Nat := 2

def assetHubLocation : Location := ⟨1, .x1 (.parachain 1000)⟩

def relayLocation : Location := .parent

def selfLocationAbsolute (selfId : UInt32) : Location := ⟨1, .x1 (.parachain selfId)⟩

def reserveConfig (selfId : UInt32) : ReserveConfig :=
  ⟨assetHubLocation, relayLocation, selfLocationAbsolute selfId⟩

end Generic

namespace Template

abbrev AssetId : Template → Type
  | .evm => Evm.AssetId
  | .generic => Generic.AssetId

abbrev AccountId : Template → Type
  | .evm => Evm.AccountId
  | .generic => Generic.AccountId

instance : (t : Template) → DecidableEq t.AssetId
  | .evm => inferInstanceAs (DecidableEq Evm.AssetId)
  | .generic => inferInstanceAs (DecidableEq Generic.AssetId)

instance : (t : Template) → DecidableEq t.AccountId
  | .evm => inferInstanceAs (DecidableEq Evm.AccountId)
  | .generic => inferInstanceAs (DecidableEq Generic.AccountId)

def reserveConfig : Template → UInt32 → ReserveConfig
  | .evm => Evm.reserveConfig
  | .generic => Generic.reserveConfig

def maxAssetsForTransfer : Template → Nat
  | .evm => Evm.maxAssetsForTransfer
  | .generic => Generic.maxAssetsForTransfer

@[simp] theorem assetHubLocation_eq (t : Template) (selfId : UInt32) :
    (t.reserveConfig selfId).assetHubLocation = .sibling 1000 := by
  cases t <;> rfl

@[simp] theorem relayLocation_eq (t : Template) (selfId : UInt32) :
    (t.reserveConfig selfId).relayLocation = .parent := by
  cases t <;> rfl

@[simp] theorem selfLocationAbsolute_eq (t : Template) (selfId : UInt32) :
    (t.reserveConfig selfId).selfLocationAbsolute = .sibling selfId := by
  cases t <;> rfl

end Template

end RuntimeTemplates
