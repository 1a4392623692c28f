import RuntimeTemplates.Assets.Pallet

/-!
# RuntimeTemplates.Assets.Registrar

`asset_config.rs`: the id of a foreign asset, derived from its location, and the two calls by which
the asset manager creates and destroys the asset behind a registered location. Both templates have
the same calls over their own id and account types; the derivation differs in how many bytes of the
hash it keeps.

* `Config`: what the calls read from the runtime.
* `createForeignAsset`, `destroyForeignAsset`: the registrar.
* `registerForeignAsset`, `deregisterForeignAsset`: root's calls of the asset manager.
-/

namespace RuntimeTemplates
namespace Assets

open Xcm Dispatch

structure AssetRegistrarMetadata where
  name : List UInt8
  symbol : List UInt8
  decimals : UInt8
  isFrozen : Bool
  deriving DecidableEq

structure Config (AssetId AccountId : Type) where
  assetManagerAccountId : AccountId
  /-- `From<AssetType> for AssetId` -/
  toAssetId : AssetType → AssetId
  assetDeposit : Nat

section Calls

variable {AssetId AccountId : Type} [DecidableEq AssetId] (c : Config AssetId AccountId)

def createForeignAsset (asset : AssetId) (minBalance : Nat) (metadata : AssetRegistrarMetadata)
    (isSufficient : Bool) : DispatchM AssetId AccountId Unit :=
  transactional do
    forceCreate .root asset c.assetManagerAccountId isSufficient minBalance
    forceSetMetadata .root asset metadata.name metadata.symbol metadata.decimals metadata.isFrozen

def destroyForeignAsset [DecidableEq AccountId] (asset : AssetId) :
    DispatchM AssetId AccountId Unit :=
  transactional (startDestroy .root asset)

def Storage.insertAssociation (s : Storage AssetId AccountId) (asset : AssetType) (id : AssetId) :
    Storage AssetId AccountId :=
  { s with
    assetIdType := Function.update s.assetIdType id (some asset)
    assetTypeId := Function.update s.assetTypeId asset (some id) }

def Storage.removeAssociation (s : Storage AssetId AccountId) (asset : AssetType) (id : AssetId) :
    Storage AssetId AccountId :=
  { s with
    assetIdType := Function.update s.assetIdType id none
    assetTypeId := Function.update s.assetTypeId asset none }

/-- The asset manager's registration: fails when the derived id is mapped. -/
def registerForeignAsset (origin : RuntimeOrigin AccountId) (asset : AssetType)
    (metadata : AssetRegistrarMetadata) (minAmount : Nat) (isSufficient : Bool) :
    DispatchM AssetId AccountId Unit := do
  ensureRoot origin
  let assetId := c.toAssetId asset
  let s ← get
  ensure (s.assetIdType assetId = none) .assetAlreadyExists
  createForeignAsset c assetId minAmount metadata isSufficient
  modify fun s => s.insertAssociation asset assetId

/-- The asset manager's removal: destroys the asset, then deletes the mapping. -/
def deregisterForeignAsset [DecidableEq AccountId] (origin : RuntimeOrigin AccountId)
    (assetId : AssetId) : DispatchM AssetId AccountId Unit := do
  ensureRoot origin
  destroyForeignAsset assetId
  let s ← get
  let asset ← ensureSome (s.assetIdType assetId) .assetDoesNotExist
  modify fun s => s.removeAssociation asset assetId

end Calls

/-! ## What the registrar does -/

section Association

variable {AssetId AccountId : Type} [DecidableEq AssetId] {s : Storage AssetId AccountId}
  {asset : AssetType} {id : AssetId}

@[simp] theorem insertAssociation_asset : (s.insertAssociation asset id).asset = s.asset := rfl

@[simp] theorem insertAssociation_assetIdType :
    (s.insertAssociation asset id).assetIdType = Function.update s.assetIdType id (some asset) :=
  rfl

@[simp] theorem insertAssociation_assetTypeId :
    (s.insertAssociation asset id).assetTypeId = Function.update s.assetTypeId asset (some id) :=
  rfl

@[simp] theorem removeAssociation_asset : (s.removeAssociation asset id).asset = s.asset := rfl

@[simp] theorem removeAssociation_assetIdType :
    (s.removeAssociation asset id).assetIdType = Function.update s.assetIdType id none := rfl

@[simp] theorem removeAssociation_assetTypeId :
    (s.removeAssociation asset id).assetTypeId = Function.update s.assetTypeId asset none := rfl

end Association

section Spec

variable {AssetId AccountId : Type} [DecidableEq AssetId] {c : Config AssetId AccountId}
  {s s' : Storage AssetId AccountId} {id : AssetId} {minBalance : Nat}
  {m : AssetRegistrarMetadata} {isSufficient : Bool}

def created (c : Config AssetId AccountId) (s : Storage AssetId AccountId) (id : AssetId)
    (minBalance : Nat) (name symbol : BoundedString) (decimals : UInt8)
    (isFrozen isSufficient : Bool) : Storage AssetId AccountId :=
  (s.insertAsset id (some (.created c.assetManagerAccountId c.assetManagerAccountId 0 minBalance
    isSufficient))).insertMetadata id
      (some ⟨((s.metadata id).map AssetMetadata.deposit).getD 0, name, symbol, decimals, isFrozen⟩)

@[simp] theorem created_asset {name symbol : BoundedString} {decimals : UInt8} {isFrozen : Bool} :
    (created c s id minBalance name symbol decimals isFrozen isSufficient).asset =
      Function.update s.asset id (some (.created c.assetManagerAccountId c.assetManagerAccountId 0
        minBalance isSufficient)) := rfl

@[simp] theorem created_assetIdType {name symbol : BoundedString} {decimals : UInt8}
    {isFrozen : Bool} :
    (created c s id minBalance name symbol decimals isFrozen isSufficient).assetIdType =
      s.assetIdType := rfl

@[simp] theorem created_assetTypeId {name symbol : BoundedString} {decimals : UInt8}
    {isFrozen : Bool} :
    (created c s id minBalance name symbol decimals isFrozen isSufficient).assetTypeId =
      s.assetTypeId := rfl

theorem createForeignAsset_exec :
    (createForeignAsset c id minBalance m isSufficient).exec s =
      if s.asset id = none then
        if minBalance ≠ 0 then
          match BoundedString.tryFrom m.name, BoundedString.tryFrom m.symbol with
          | some name, some symbol =>
            (.ok (), created c s id minBalance name symbol m.decimals m.isFrozen isSufficient)
          | _, _ => (.error .badMetadata, s)
        else (.error .minBalanceZero, s)
      else (.error .inUse, s) := by
  unfold createForeignAsset
  rw [transactional_exec, exec_bind, forceCreate_exec]
  by_cases hid : s.asset id = none
  · by_cases hmin : minBalance ≠ 0
    · rw [if_pos hid, if_pos hmin, if_pos hid, if_pos hmin]
      simp only [forceSetMetadata_exec]
      cases BoundedString.tryFrom m.name <;> cases BoundedString.tryFrom m.symbol <;>
        simp [created]
    · rw [if_pos hid, if_neg hmin, if_pos hid, if_neg hmin]
  · rw [if_neg hid, if_neg hid]

/-- Creation succeeds exactly on a free id, with a balance above zero and strings that fit. -/
theorem createForeignAsset_succeeds_iff :
    ((createForeignAsset c id minBalance m isSufficient).exec s).1 = .ok () ↔
      s.asset id = none ∧ minBalance ≠ 0 ∧
        m.name.length ≤ stringLimit ∧ m.symbol.length ≤ stringLimit := by
  rw [createForeignAsset_exec]
  by_cases hid : s.asset id = none
  · by_cases hmin : minBalance ≠ 0
    · by_cases hn : m.name.length ≤ stringLimit
      · by_cases hs : m.symbol.length ≤ stringLimit
        · simp [hid, hmin, hn, hs, tryFrom_eq_some]
        · simp [hid, hmin, hn, hs, tryFrom_eq_some, tryFrom_eq_none]
      · simp [hid, hmin, hn, tryFrom_eq_none]
    · simp [hid, hmin]
  · simp [hid]

theorem createForeignAsset_ok
    (h : (createForeignAsset c id minBalance m isSufficient).exec s = (.ok (), s')) :
    s.asset id = none ∧ ∃ name symbol : BoundedString, name.val = m.name ∧ symbol.val = m.symbol ∧
      s' = created c s id minBalance name symbol m.decimals m.isFrozen isSufficient := by
  have hfree : s.asset id = none :=
    (createForeignAsset_succeeds_iff.mp (congrArg Prod.fst h)).1
  rw [createForeignAsset_exec] at h
  refine ⟨hfree, ?_⟩
  split_ifs at h with hmin
  · split at h
    · rename_i name symbol hname hsymbol
      exact ⟨name, symbol, tryFrom_val hname, tryFrom_val hsymbol, (Prod.mk.inj h).2.symm⟩
    · cases h
  · cases h

theorem registerForeignAsset_ok {asset : AssetType}
    (h : (registerForeignAsset c .root asset m minBalance isSufficient).exec s = (.ok (), s')) :
    s.assetIdType (c.toAssetId asset) = none ∧ s.asset (c.toAssetId asset) = none ∧
      ∃ name symbol, s' = (created c s (c.toAssetId asset) minBalance name symbol m.decimals
        m.isFrozen isSufficient).insertAssociation asset (c.toAssetId asset) := by
  simp only [registerForeignAsset, ensureRoot, pure_bind, exec_get_bind, exec_ensure_bind] at h
  split at h
  · rename_i hmap
    rw [exec_bind] at h
    split at h
    · rename_i s₁ hc
      obtain ⟨hfree, name, symbol, -, -, rfl⟩ := createForeignAsset_ok hc
      exact ⟨hmap, hfree, name, symbol, (Prod.mk.inj h).2.symm⟩
    · cases h
  · cases h

theorem deregisterForeignAsset_ok [DecidableEq AccountId]
    (h : (deregisterForeignAsset .root id).exec s = (.ok (), s')) :
    ∃ d asset, s.asset id = some d ∧ s.assetIdType id = some asset ∧
      s' = (s.insertAsset id (some { d with status := .destroying })).removeAssociation asset id := by
  simp only [deregisterForeignAsset, ensureRoot, pure_bind] at h
  rw [exec_bind] at h
  split at h
  · rename_i s₁ hd
    obtain ⟨d, hasset, rfl⟩ := startDestroy_root_ok_iff.mp (transactional_ok_iff.mp hd)
    simp only [exec_get_bind, exec_ensureSome_bind, insertAsset_assetIdType] at h
    cases hmap : s.assetIdType id with
    | none => simp [hmap] at h
    | some asset =>
      rw [hmap] at h
      exact ⟨d, asset, hasset, rfl, (Prod.mk.inj h).2.symm⟩
  · cases h

end Spec

/-! ## The two templates -/

/-- `u128::from_le_bytes`, `u32::from_le_bytes`: the first byte is the lowest. -/
def fromLeBytes (w : Nat) (bytes : List UInt8) : BitVec w :=
  bytes.foldr (fun b acc => acc <<< 8 ||| b.toBitVec.setWidth w) 0

/-- `Hashing::hash` of the encoded location: 32 bytes. -/
abbrev LocationHash := Location → Vector UInt8 32

end Assets

open Assets Xcm

namespace Evm

def toAssetId (hash : LocationHash) : AssetType → AssetId
  | .xcm id => fromLeBytes 128 ((hash id).toList.take 16)

end Evm

namespace Generic

def toAssetId (hash : LocationHash) : AssetType → AssetId
  | .xcm id => fromLeBytes 32 ((hash id).toList.take 4)

end Generic

/-- What the assets pallet and the registrar of a template are configured with; the hash and the
account of the asset manager are left open. -/
def Template.assetsConfig : (t : Template) → LocationHash → t.AccountId →
    Config t.AssetId t.AccountId
  | .evm => fun hash manager => ⟨manager, Evm.toAssetId hash, Evm.assetDeposit⟩
  | .generic => fun hash manager => ⟨manager, Generic.toAssetId hash, Generic.assetDeposit⟩

end RuntimeTemplates
