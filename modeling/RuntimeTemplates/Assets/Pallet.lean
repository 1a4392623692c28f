import Mathlib.Logic.Function.Basic
import RuntimeTemplates.Lib.Dispatch
import RuntimeTemplates.Template

/-!
# RuntimeTemplates.Assets.Pallet

The storage of `pallet_assets` and of the asset manager, and the calls of `pallet_assets` that the
asset registrar and the accounts of the chain make, by their documented behaviour.

* `create`: for a signed account, which pays a deposit and names an admin.
* `forceCreate`, `forceSetMetadata`: for root.
* `startDestroy`, `finishDestroy`: for root or the owner, then for anyone.

Each call comes with one equation for its execution.
-/

namespace RuntimeTemplates
namespace Assets

open Xcm Dispatch

inductive AssetStatus where
  | live
  | frozen
  | destroying
  deriving DecidableEq

structure AssetDetails (AccountId : Type) where
  owner : AccountId
  issuer : AccountId
  admin : AccountId
  freezer : AccountId
  supply : Nat
  deposit : Nat
  minBalance : Nat
  isSufficient : Bool
  accounts : UInt32
  sufficients : UInt32
  approvals : UInt32
  status : AssetStatus
  deriving DecidableEq

/-- `StringLimit`, as the runtimes configure it. -/
def stringLimit : Nat := 50

/-- A name or symbol in storage: `BoundedVec<u8, StringLimit>`. -/
abbrev BoundedString := { v : List UInt8 // v.length ≤ stringLimit }

def BoundedString.tryFrom (v : List UInt8) : Option BoundedString :=
  if h : v.length ≤ stringLimit then some ⟨v, h⟩ else none

structure AssetMetadata where
  deposit : Nat
  name : BoundedString
  symbol : BoundedString
  decimals : UInt8
  isFrozen : Bool
  deriving DecidableEq

/-- What the asset manager registers: for now only XCM assets. -/
inductive AssetType where
  | xcm (location : Location)
  deriving DecidableEq

def AssetType.toLocation : AssetType → Option Location
  | .xcm location => some location

/-- `Asset` and `Metadata` of `pallet_assets`; `AssetIdType` and `AssetTypeId` of the manager. -/
@[ext] structure Storage (AssetId AccountId : Type) where
  asset : AssetId → Option (AssetDetails AccountId)
  metadata : AssetId → Option AssetMetadata
  assetIdType : AssetId → Option AssetType
  assetTypeId : AssetType → Option AssetId

inductive DispatchError where
  | badOrigin
  | inUse
  | minBalanceZero
  | insufficientBalance
  | unknown
  | noPermission
  | badMetadata
  | incorrectStatus
  | assetAlreadyExists
  | assetDoesNotExist
  deriving DecidableEq

inductive RuntimeOrigin (AccountId : Type) where
  | root
  | signed (who : AccountId)

variable {AssetId AccountId : Type}

/-- What a call of the runtime returns: `DispatchResult` for `α = Unit`. -/
abbrev DispatchM (AssetId AccountId α : Type) :=
  Dispatch DispatchError (Storage AssetId AccountId) α

def ensureRoot : RuntimeOrigin AccountId → DispatchM AssetId AccountId Unit
  | .root => pure ()
  | .signed _ => throw .badOrigin

def ensureSigned : RuntimeOrigin AccountId → DispatchM AssetId AccountId AccountId
  | .root => throw .badOrigin
  | .signed who => pure who

section Calls

variable [DecidableEq AssetId]

def Storage.insertAsset (s : Storage AssetId AccountId) (id : AssetId)
    (d : Option (AssetDetails AccountId)) : Storage AssetId AccountId :=
  { s with asset := Function.update s.asset id d }

def Storage.insertMetadata (s : Storage AssetId AccountId) (id : AssetId)
    (m : Option AssetMetadata) : Storage AssetId AccountId :=
  { s with metadata := Function.update s.metadata id m }

def AssetDetails.created (owner admin : AccountId) (deposit minBalance : Nat)
    (isSufficient : Bool) : AssetDetails AccountId where
  owner
  issuer := admin
  admin
  freezer := admin
  supply := 0
  deposit
  minBalance
  isSufficient
  accounts := 0
  sufficients := 0
  approvals := 0
  status := .live

/-- `create`. `CreateOrigin` is `EnsureSigned`; whether the balances of the owner can reserve the
deposit is an input. -/
def create (assetDeposit : Nat) (origin : RuntimeOrigin AccountId) (id : AssetId)
    (admin : AccountId) (minBalance : Nat) (canReserve : Bool) :
    DispatchM AssetId AccountId Unit := do
  let owner ← ensureSigned origin
  let s ← get
  ensure (s.asset id = none) .inUse
  ensure (minBalance ≠ 0) .minBalanceZero
  ensure (canReserve = true) .insufficientBalance
  modify fun s => s.insertAsset id (some (.created owner admin assetDeposit minBalance false))

def forceCreate (origin : RuntimeOrigin AccountId) (id : AssetId) (owner : AccountId)
    (isSufficient : Bool) (minBalance : Nat) : DispatchM AssetId AccountId Unit := do
  ensureRoot origin
  let s ← get
  ensure (s.asset id = none) .inUse
  ensure (minBalance ≠ 0) .minBalanceZero
  modify fun s => s.insertAsset id (some (.created owner owner 0 minBalance isSufficient))

/-- `force_set_metadata`: keeps the deposit of the entry it overwrites. -/
def forceSetMetadata (origin : RuntimeOrigin AccountId) (id : AssetId) (name symbol : List UInt8)
    (decimals : UInt8) (isFrozen : Bool) : DispatchM AssetId AccountId Unit := do
  ensureRoot origin
  let name ← ensureSome (BoundedString.tryFrom name) .badMetadata
  let symbol ← ensureSome (BoundedString.tryFrom symbol) .badMetadata
  let s ← get
  ensure (s.asset id ≠ none) .unknown
  let deposit := ((s.metadata id).map AssetMetadata.deposit).getD 0
  modify fun s => s.insertMetadata id (some { deposit, name, symbol, decimals, isFrozen })

/-- `start_destroy`: by root, or by the owner. -/
def startDestroy [DecidableEq AccountId] (origin : RuntimeOrigin AccountId) (id : AssetId) :
    DispatchM AssetId AccountId Unit := do
  let s ← get
  let details ← ensureSome (s.asset id) .unknown
  match origin with
  | .root => pure ()
  | .signed who => ensure (details.owner = who) .noPermission
  modify fun s => s.insertAsset id (some { details with status := .destroying })

/-- `finish_destroy`: by anyone, once the asset is marked and has no accounts or approvals left. -/
def finishDestroy (origin : RuntimeOrigin AccountId) (id : AssetId) :
    DispatchM AssetId AccountId Unit := do
  let _ ← ensureSigned origin
  let s ← get
  let details ← ensureSome (s.asset id) .unknown
  ensure (details.status = .destroying) .incorrectStatus
  ensure (details.accounts = 0) .inUse
  ensure (details.approvals = 0) .inUse
  modify fun s => (s.insertAsset id none).insertMetadata id none

/-! ## Execution -/

variable {s s' : Storage AssetId AccountId} {id : AssetId}

theorem create_ok_iff {deposit minBalance : Nat} {who admin : AccountId} {canReserve : Bool} :
    (create deposit (.signed who) id admin minBalance canReserve).exec s = (.ok (), s') ↔
      s.asset id = none ∧ minBalance ≠ 0 ∧ canReserve = true ∧
        s' = s.insertAsset id (some (.created who admin deposit minBalance false)) := by
  simp only [create, ensureSigned, pure_bind, exec_get_bind, exec_ensure_bind, exec_modify]
  split_ifs <;> simp [*, eq_comm (a := s')]

theorem forceCreate_exec (owner : AccountId) (isSufficient : Bool) (minBalance : Nat) :
    (forceCreate .root id owner isSufficient minBalance).exec s =
      if s.asset id = none then
        if minBalance ≠ 0 then
          (.ok (), s.insertAsset id (some (.created owner owner 0 minBalance isSufficient)))
        else (.error .minBalanceZero, s)
      else (.error .inUse, s) := by
  simp only [forceCreate, ensureRoot, pure_bind, exec_get_bind, exec_ensure_bind, exec_modify]

theorem forceSetMetadata_exec (name symbol : List UInt8) (decimals : UInt8) (isFrozen : Bool) :
    (forceSetMetadata .root id name symbol decimals isFrozen).exec s =
      match BoundedString.tryFrom name, BoundedString.tryFrom symbol with
      | some name, some symbol =>
        if s.asset id ≠ none then
          let deposit := ((s.metadata id).map AssetMetadata.deposit).getD 0
          (.ok (), s.insertMetadata id (some { deposit, name, symbol, decimals, isFrozen }))
        else (.error .unknown, s)
      | _, _ => (.error .badMetadata, s) := by
  simp only [forceSetMetadata, ensureRoot, pure_bind, exec_ensureSome_bind, exec_get_bind,
    exec_ensure_bind, exec_modify]
  cases BoundedString.tryFrom name <;> cases BoundedString.tryFrom symbol <;> rfl

theorem startDestroy_root_ok_iff [DecidableEq AccountId] :
    (startDestroy .root id).exec s = (.ok (), s') ↔
      ∃ d, s.asset id = some d ∧
        s' = s.insertAsset id (some { d with status := .destroying }) := by
  simp only [startDestroy, exec_get_bind, exec_ensureSome_bind, exec_modify]
  cases s.asset id <;> simp [eq_comm]

theorem startDestroy_signed_ok_iff [DecidableEq AccountId] {who : AccountId} :
    (startDestroy (.signed who) id).exec s = (.ok (), s') ↔
      ∃ d, s.asset id = some d ∧ d.owner = who ∧
        s' = s.insertAsset id (some { d with status := .destroying }) := by
  simp only [startDestroy, exec_get_bind, exec_ensureSome_bind, exec_ensure_bind, exec_modify]
  cases s.asset id with
  | none => simp
  | some d => simp only; split_ifs <;> simp [*, eq_comm (a := s')]

theorem finishDestroy_ok {who : AccountId}
    (h : (finishDestroy (.signed who) id).exec s = (.ok (), s')) :
    (∃ d, s.asset id = some d ∧ d.status = .destroying) ∧
      s' = (s.insertAsset id none).insertMetadata id none := by
  simp only [finishDestroy, ensureSigned, pure_bind, exec_get_bind, exec_ensureSome_bind,
    exec_ensure_bind, exec_modify] at h
  cases hd : s.asset id with
  | none => simp [hd] at h
  | some d =>
    simp only [hd] at h
    split_ifs at h with hs ha hp
    · exact ⟨⟨d, rfl, hs⟩, by simpa using h.symm⟩
    · cases h
    · cases h
    · cases h

end Calls

/-! ## Reading storage back -/

section Storage

variable [DecidableEq AssetId] {s : Storage AssetId AccountId} {id : AssetId}

@[simp] theorem insertAsset_asset (d : Option (AssetDetails AccountId)) :
    (s.insertAsset id d).asset = Function.update s.asset id d := rfl

@[simp] theorem insertAsset_metadata (d : Option (AssetDetails AccountId)) :
    (s.insertAsset id d).metadata = s.metadata := rfl

@[simp] theorem insertAsset_assetIdType (d : Option (AssetDetails AccountId)) :
    (s.insertAsset id d).assetIdType = s.assetIdType := rfl

@[simp] theorem insertAsset_assetTypeId (d : Option (AssetDetails AccountId)) :
    (s.insertAsset id d).assetTypeId = s.assetTypeId := rfl

@[simp] theorem insertMetadata_asset (m : Option AssetMetadata) :
    (s.insertMetadata id m).asset = s.asset := rfl

@[simp] theorem insertMetadata_metadata (m : Option AssetMetadata) :
    (s.insertMetadata id m).metadata = Function.update s.metadata id m := rfl

@[simp] theorem insertMetadata_assetIdType (m : Option AssetMetadata) :
    (s.insertMetadata id m).assetIdType = s.assetIdType := rfl

@[simp] theorem insertMetadata_assetTypeId (m : Option AssetMetadata) :
    (s.insertMetadata id m).assetTypeId = s.assetTypeId := rfl

theorem tryFrom_eq_some {v : List UInt8} (h : v.length ≤ stringLimit) :
    BoundedString.tryFrom v = some ⟨v, h⟩ := dif_pos h

theorem tryFrom_val {v : List UInt8} {b : BoundedString} (h : BoundedString.tryFrom v = some b) :
    b.val = v := by
  unfold BoundedString.tryFrom at h
  split at h
  · cases h; rfl
  · cases h

theorem tryFrom_eq_none {v : List UInt8} (h : ¬ v.length ≤ stringLimit) :
    BoundedString.tryFrom v = none := dif_neg h

end Storage

end Assets
end RuntimeTemplates
