import RuntimeTemplates.Assets.Registrar
import RuntimeTemplates.Lib.Trace

/-!
# RuntimeTemplates.Assets.Backing

Runs of the calls by which accounts and root change the assets of a chain, in any order, and what
backs a registered location in every state they reach.

* `Step`: one dispatched call with its result. A failed call is rolled back.
* `Change`: what a successful call does, with the guards it passed.
* `Sound`: the invariant. A mapped id has a live asset of the registrar, owned by the manager, and
  the two maps of the asset manager are mutually inverse.
-/

namespace RuntimeTemplates
namespace Assets

open Xcm Dispatch

variable {AssetId AccountId : Type}

/-- An account that can sign: the asset manager's own account has no key. -/
abbrev Config.Signer (c : Config AssetId AccountId) :=
  { who : AccountId // who ≠ c.assetManagerAccountId }

inductive Action (c : Config AssetId AccountId) where
  | create (who : c.Signer) (id : AssetId) (admin : AccountId) (minBalance : Nat)
      (canReserve : Bool)
  | startDestroy (who : c.Signer) (id : AssetId)
  | finishDestroy (who : c.Signer) (id : AssetId)
  | register (asset : AssetType) (metadata : AssetRegistrarMetadata) (minAmount : Nat)
      (isSufficient : Bool)
  | deregister (id : AssetId)

inductive Creator (AccountId : Type) where
  | signed (who : AccountId)
  | registrar
  deriving DecidableEq

/-- The storage, and who created the asset last created under an id. The second part is history:
no call reads it. -/
structure System (AssetId AccountId : Type) where
  storage : Storage AssetId AccountId
  creator : AssetId → Option (Creator AccountId)

def System.genesis : System AssetId AccountId :=
  ⟨⟨fun _ => none, fun _ => none, fun _ => none, fun _ => none⟩, fun _ => none⟩

/-- A dispatched call and what it returned. -/
structure Event (c : Config AssetId AccountId) where
  action : Action c
  result : Except DispatchError Unit

section Runs

variable [DecidableEq AssetId] [DecidableEq AccountId] {c : Config AssetId AccountId}

def Action.call : Action c → DispatchM AssetId AccountId Unit
  | .create who id admin minBalance canReserve =>
    Assets.create c.assetDeposit (.signed who) id admin minBalance canReserve
  | .startDestroy who id => Assets.startDestroy (.signed who) id
  | .finishDestroy who id => Assets.finishDestroy (.signed who) id
  | .register asset metadata minAmount isSufficient =>
    registerForeignAsset c .root asset metadata minAmount isSufficient
  | .deregister id => deregisterForeignAsset .root id

/-- The asset a call creates when it succeeds, and for whom. -/
def Action.creates : Action c → Option (AssetId × Creator AccountId)
  | .create who id _ _ _ => some (id, .signed who)
  | .register asset _ _ _ => some (c.toAssetId asset, .registrar)
  | _ => none

def Event.created (e : Event c) : Option (AssetId × Creator AccountId) :=
  match e.result with
  | .ok _ => e.action.creates
  | .error _ => none

def record (creator : AssetId → Option (Creator AccountId)) (e : Event c) :
    AssetId → Option (Creator AccountId) :=
  match e.created with
  | some (id, who) => Function.update creator id (some who)
  | none => creator

/-- A call runs as a transaction: one that fails changes nothing. -/
def Step (c : Config AssetId AccountId) (s : System AssetId AccountId) (e : Event c)
    (s' : System AssetId AccountId) : Prop :=
  (transactional e.action.call).exec s.storage = (e.result, s'.storage) ∧
    s'.creator = record s.creator e

/-- Runs one call, and tells what happened. -/
def dispatch (s : System AssetId AccountId) (a : Action c) :
    Event c × System AssetId AccountId :=
  let x := (transactional a.call).exec s.storage
  (⟨a, x.1⟩, ⟨x.2, record s.creator ⟨a, x.1⟩⟩)

theorem step_dispatch (s : System AssetId AccountId) (a : Action c) :
    Step c s (dispatch s a).1 (dispatch s a).2 := ⟨rfl, rfl⟩

def dispatchAll (s : System AssetId AccountId) :
    List (Action c) → List (Event c) × System AssetId AccountId
  | [] => ([], s)
  | a :: as =>
    let x := dispatchAll (dispatch s a).2 as
    ((dispatch s a).1 :: x.1, x.2)

theorem trace_dispatchAll (s : System AssetId AccountId) (as : List (Action c)) :
    Trace (Step c) s (dispatchAll s as).1 (dispatchAll s as).2 := by
  induction as generalizing s with
  | nil => exact .nil s
  | cons a as ih => exact .cons (step_dispatch s a) (ih (dispatch s a).2)

/-! ## What a call changes -/

inductive Change (c : Config AssetId AccountId) (s : Storage AssetId AccountId) :
    Action c → Storage AssetId AccountId → Prop where
  | create (who : c.Signer) (id : AssetId) (admin : AccountId) (minBalance : Nat)
      (canReserve : Bool) :
      s.asset id = none →
      Change c s (.create who id admin minBalance canReserve)
        (s.insertAsset id (some (.created who.val admin c.assetDeposit minBalance false)))
  | startDestroy (who : c.Signer) (id : AssetId) (d : AssetDetails AccountId) :
      s.asset id = some d → d.owner = who →
      Change c s (.startDestroy who id)
        (s.insertAsset id (some { d with status := .destroying }))
  | finishDestroy (who : c.Signer) (id : AssetId) (d : AssetDetails AccountId) :
      s.asset id = some d → d.status = .destroying →
      Change c s (.finishDestroy who id) ((s.insertAsset id none).insertMetadata id none)
  | register (asset : AssetType) (m : AssetRegistrarMetadata) (minAmount : Nat)
      (isSufficient : Bool) (name symbol : BoundedString) :
      s.assetIdType (c.toAssetId asset) = none → s.asset (c.toAssetId asset) = none →
      Change c s (.register asset m minAmount isSufficient)
        ((created c s (c.toAssetId asset) minAmount name symbol m.decimals m.isFrozen
          isSufficient).insertAssociation asset (c.toAssetId asset))
  | deregister (id : AssetId) (d : AssetDetails AccountId) (asset : AssetType) :
      s.asset id = some d → s.assetIdType id = some asset →
      Change c s (.deregister id)
        ((s.insertAsset id (some { d with status := .destroying })).removeAssociation asset id)

theorem call_change {a : Action c} {s s' : Storage AssetId AccountId}
    (h : a.call.exec s = (.ok (), s')) : Change c s a s' := by
  cases a with
  | create who id admin minBalance canReserve =>
    obtain ⟨hfree, -, -, rfl⟩ := create_ok_iff.mp h
    exact .create who id admin minBalance canReserve hfree
  | startDestroy who id =>
    obtain ⟨d, hd, ho, rfl⟩ := startDestroy_signed_ok_iff.mp h
    exact .startDestroy who id d hd ho
  | finishDestroy who id =>
    obtain ⟨⟨d, hd, hs⟩, rfl⟩ := finishDestroy_ok h
    exact .finishDestroy who id d hd hs
  | register asset m minAmount isSufficient =>
    obtain ⟨hmap, hfree, name, symbol, rfl⟩ := registerForeignAsset_ok h
    exact .register asset m minAmount isSufficient name symbol hmap hfree
  | deregister id =>
    obtain ⟨d, asset, hd, hmap, rfl⟩ := deregisterForeignAsset_ok h
    exact .deregister id d asset hd hmap

/-- A step changes what its call changes, or fails and changes nothing. -/
theorem step_cases {s s' : System AssetId AccountId} {e : Event c} (h : Step c s e s') :
    (e.result = .ok () ∧ Change c s.storage e.action s'.storage) ∨
      ((∃ err, e.result = .error err) ∧ s' = s) := by
  obtain ⟨hx, hr⟩ := h
  obtain ⟨a, r⟩ := e
  cases r with
  | ok u => exact .inl ⟨rfl, call_change (transactional_ok_iff.mp hx)⟩
  | error err =>
    right
    obtain ⟨storage, creator⟩ := s'
    have hs : storage = s.storage := transactional_unchanged hx
    have hc : creator = s.creator := hr
    exact ⟨⟨err, rfl⟩, by rw [hs, hc]⟩

end Runs

/-! ## The invariant -/

section Invariant

variable {c : Config AssetId AccountId}

/-- An asset of the registrar behind a mapped id. -/
structure Backed (c : Config AssetId AccountId) (s : System AssetId AccountId) (id : AssetId)
    (d : AssetDetails AccountId) : Prop where
  asset : s.storage.asset id = some d
  live : d.status = .live
  owner : d.owner = c.assetManagerAccountId
  issuer : d.issuer = c.assetManagerAccountId
  creator : s.creator id = some .registrar

structure Sound (c : Config AssetId AccountId) (s : System AssetId AccountId) : Prop where
  backed : ∀ id asset, s.storage.assetIdType id = some asset → ∃ d, Backed c s id d
  derived : ∀ id asset, s.storage.assetIdType id = some asset → c.toAssetId asset = id
  inverse : ∀ id asset,
    s.storage.assetTypeId asset = some id ↔ s.storage.assetIdType id = some asset

theorem sound_genesis : Sound c System.genesis :=
  ⟨fun _ _ h => (nomatch h), fun _ _ h => (nomatch h), fun _ _ => by simp [System.genesis]⟩

/-- What touches only an id that no registrar's asset is behind keeps the invariant. -/
theorem Sound.frame {s s' : System AssetId AccountId} (hs : Sound c s) (id : AssetId)
    (hid : s'.storage.assetIdType = s.storage.assetIdType)
    (hty : s'.storage.assetTypeId = s.storage.assetTypeId) (hno : ∀ d, ¬ Backed c s id d)
    (hframe : ∀ i, i ≠ id →
      s'.storage.asset i = s.storage.asset i ∧ s'.creator i = s.creator i) : Sound c s' := by
  refine ⟨?_, ?_, ?_⟩
  · intro i asset h
    rw [hid] at h
    obtain ⟨d, hb⟩ := hs.backed i asset h
    have hne : i ≠ id := by rintro rfl; exact hno d hb
    obtain ⟨ha, hc⟩ := hframe i hne
    exact ⟨d, ha.trans hb.asset, hb.live, hb.owner, hb.issuer, hc.trans hb.creator⟩
  · intro i asset h
    rw [hid] at h
    exact hs.derived i asset h
  · intro i asset
    rw [hid, hty]
    exact hs.inverse i asset

end Invariant

section Sound

variable [DecidableEq AssetId] {c : Config AssetId AccountId}

/-- The calls of signed accounts: none of them reaches the asset behind a mapped id. -/
theorem create_sound {s : System AssetId AccountId} (hs : Sound c s) {id : AssetId}
    (hfree : s.storage.asset id = none) (d : AssetDetails AccountId) (who : Creator AccountId) :
    Sound c ⟨s.storage.insertAsset id (some d), Function.update s.creator id (some who)⟩ := by
  refine hs.frame id rfl rfl (fun d hb => ?_) fun i hi => ?_
  · exact absurd hb.asset (by rw [hfree]; simp)
  · simp [Function.update_of_ne hi]

theorem startDestroy_sound {s : System AssetId AccountId} (hs : Sound c s) {id : AssetId}
    {d d' : AssetDetails AccountId} {who : c.Signer} (hd : s.storage.asset id = some d)
    (ho : d.owner = who) : Sound c ⟨s.storage.insertAsset id (some d'), s.creator⟩ := by
  refine hs.frame id rfl rfl (fun d hb => ?_) fun i hi => ?_
  · obtain rfl := Option.some.inj (hd.symm.trans hb.asset)
    exact who.property (ho.symm.trans hb.owner)
  · simp [Function.update_of_ne hi]

theorem finishDestroy_sound {s : System AssetId AccountId} (hs : Sound c s) {id : AssetId}
    {d : AssetDetails AccountId} (hd : s.storage.asset id = some d) (hst : d.status = .destroying) :
    Sound c ⟨(s.storage.insertAsset id none).insertMetadata id none, s.creator⟩ := by
  refine hs.frame id rfl rfl (fun d hb => ?_) fun i hi => ?_
  · obtain rfl := Option.some.inj (hd.symm.trans hb.asset)
    exact absurd (hst.symm.trans hb.live) (by decide)
  · simp [Function.update_of_ne hi]

/-- A registration maps a free id, and puts the registrar's asset behind it. -/
theorem register_sound {s : System AssetId AccountId} (hs : Sound c s) {asset : AssetType}
    (hmap : s.storage.assetIdType (c.toAssetId asset) = none) {minAmount : Nat}
    {name symbol : BoundedString} {decimals : UInt8} {isFrozen isSufficient : Bool} :
    Sound c ⟨(created c s.storage (c.toAssetId asset) minAmount name symbol decimals isFrozen
      isSufficient).insertAssociation asset (c.toAssetId asset),
      Function.update s.creator (c.toAssetId asset) (some .registrar)⟩ := by
  refine ⟨?_, ?_, ?_⟩
  · intro i a h
    by_cases hi : i = c.toAssetId asset
    · subst hi
      refine ⟨.created c.assetManagerAccountId c.assetManagerAccountId 0 minAmount isSufficient, ?_⟩
      exact ⟨by simp, rfl, rfl, rfl, by simp⟩
    · have h' : s.storage.assetIdType i = some a := by simpa [Function.update_of_ne hi] using h
      obtain ⟨d, hb⟩ := hs.backed i a h'
      refine ⟨d, ?_, hb.live, hb.owner, hb.issuer, ?_⟩
      · simpa [Function.update_of_ne hi] using hb.asset
      · simpa [Function.update_of_ne hi] using hb.creator
  · intro i a h
    by_cases hi : i = c.toAssetId asset
    · subst hi
      have ha : asset = a := by simpa using h
      rw [ha]
    · exact hs.derived i a (by simpa [Function.update_of_ne hi] using h)
  · intro i a
    simp only [insertAssociation_assetTypeId, insertAssociation_assetIdType, created_assetTypeId,
      created_assetIdType]
    by_cases ha : a = asset
    · by_cases hi : i = c.toAssetId asset
      · simp [ha, hi]
      · have hne : s.storage.assetIdType i ≠ some asset := fun h => hi (hs.derived i asset h).symm
        simp [ha, Function.update_of_ne hi, hne, Ne.symm hi]
    · by_cases hi : i = c.toAssetId asset
      · have hne : s.storage.assetTypeId a ≠ some (c.toAssetId asset) := by
          rw [Ne, hs.inverse, hmap]; simp
        simp [hi, Function.update_of_ne ha, hne, Ne.symm ha]
      · simpa [Function.update_of_ne ha, Function.update_of_ne hi] using hs.inverse i a

/-- A removal unmaps the id whose asset it starts to destroy. -/
theorem deregister_sound {s : System AssetId AccountId} (hs : Sound c s) {asset : AssetType}
    {id : AssetId} {d : AssetDetails AccountId} (hmap : s.storage.assetIdType id = some asset) :
    Sound c ⟨(s.storage.insertAsset id (some d)).removeAssociation asset id, s.creator⟩ := by
  have hid : c.toAssetId asset = id := hs.derived id asset hmap
  have hne : ∀ i a, (Function.update s.storage.assetIdType id none) i = some a →
      i ≠ id ∧ s.storage.assetIdType i = some a := by
    intro i a h
    by_cases hi : i = id
    · subst hi; simp at h
    · exact ⟨hi, by simpa [Function.update_of_ne hi] using h⟩
  refine ⟨?_, ?_, ?_⟩
  · intro i a h
    obtain ⟨hi, h'⟩ := hne i a h
    obtain ⟨d', hb⟩ := hs.backed i a h'
    exact ⟨d', by simpa [Function.update_of_ne hi] using hb.asset, hb.live, hb.owner, hb.issuer,
      hb.creator⟩
  · intro i a h
    exact hs.derived i a (hne i a h).2
  · intro i a
    simp only [removeAssociation_assetTypeId, removeAssociation_assetIdType,
      insertAsset_assetTypeId, insertAsset_assetIdType]
    by_cases ha : a = asset
    · subst ha
      constructor
      · intro h; simp at h
      · intro h
        obtain ⟨hi, h'⟩ := hne i a h
        exact absurd ((hs.derived i a h').symm.trans hid) hi
    · by_cases hi : i = id
      · subst hi
        have hty : s.storage.assetTypeId a ≠ some i := by
          rw [Ne, hs.inverse, hmap]
          exact fun h => ha (Option.some.inj h).symm
        simp [Function.update_of_ne ha, hty]
      · simpa [Function.update_of_ne ha, Function.update_of_ne hi] using hs.inverse i a

end Sound

section Reachable

variable [DecidableEq AssetId] [DecidableEq AccountId] {c : Config AssetId AccountId}

theorem Step.sound {s s' : System AssetId AccountId} {e : Event c} (hs : Sound c s)
    (h : Step c s e s') : Sound c s' := by
  rcases step_cases h with ⟨hr, hc⟩ | ⟨-, rfl⟩
  · obtain ⟨storage', creator'⟩ := s'
    obtain rfl : creator' = record s.creator e := h.2
    obtain ⟨a, r⟩ := e
    obtain rfl : r = .ok () := hr
    cases hc with
    | create who id admin minBalance canReserve hfree => exact create_sound hs hfree _ _
    | startDestroy who id d hd ho => exact startDestroy_sound hs hd ho
    | finishDestroy who id d hd hst => exact finishDestroy_sound hs hd hst
    | register asset m minAmount isSufficient name symbol hmap _ => exact register_sound hs hmap
    | deregister id d asset _ hmap => exact deregister_sound hs hmap
  · exact hs

theorem reachable_sound {s : System AssetId AccountId} {events : List (Event c)}
    (h : Trace (Step c) System.genesis events s) : Sound c s :=
  h.invariant (fun _ _ _ hs hstep => hstep.sound hs) sound_genesis

end Reachable

/-- No asset that a signed account could issue backs a registered location. -/
theorem mapped_asset_backed (t : Template) (hash : LocationHash) (manager : t.AccountId)
    {events : List (Event (t.assetsConfig hash manager))} {s : System t.AssetId t.AccountId}
    (h : Trace (Step (t.assetsConfig hash manager)) System.genesis events s) (id : t.AssetId)
    (asset : AssetType) (hmap : s.storage.assetIdType id = some asset) :
    ∃ d, s.storage.asset id = some d ∧ d.status = .live ∧ s.creator id = some .registrar ∧
      d.owner = (t.assetsConfig hash manager).assetManagerAccountId ∧
      ∀ who : (t.assetsConfig hash manager).Signer, d.owner ≠ who ∧ d.issuer ≠ who := by
  obtain ⟨d, hb⟩ := (reachable_sound h).backed id asset hmap
  refine ⟨d, hb.asset, hb.live, hb.creator, hb.owner, fun who => ⟨?_, ?_⟩⟩
  · rw [hb.owner]; exact who.property.symm
  · rw [hb.issuer]; exact who.property.symm

/-! ## A run -/

/-- The locations all hash to the same 32 bytes. -/
abbrev sampleConfig : Config (Template.AssetId .generic) (Template.AccountId .generic) :=
  Template.generic.assetsConfig (fun _ => .replicate 32 1) 9#256

def sampleSigner : sampleConfig.Signer := ⟨7#256, by decide⟩

def otherSigner : sampleConfig.Signer := ⟨8#256, by decide⟩

/-- Root registers the relay chain's token. -/
def sampleRegistration : Action sampleConfig :=
  .register (.xcm .parent) ⟨[68, 79, 84], [68, 79, 84], 10, false⟩ 1 true

/-- An account issues an asset of its own and destroys it again. It can neither destroy what root
has registered, nor can another account create it. -/
def sampleCalls : List (Action sampleConfig) :=
  [.create sampleSigner 5#32 7#256 1 true, sampleRegistration,
    .startDestroy sampleSigner 0x01010101#32, .startDestroy sampleSigner 5#32,
    .create otherSigner 0x01010101#32 8#256 1 true,
    .finishDestroy otherSigner 5#32]

theorem mapped_asset_backed_relay :
    ∃ d, (dispatchAll System.genesis sampleCalls).2.storage.asset 0x01010101#32 = some d ∧
      d.status = .live ∧
      (dispatchAll System.genesis sampleCalls).2.creator 0x01010101#32 = some .registrar ∧
      d.owner = 9#256 ∧ ∀ who : BitVec 256, who ≠ 9#256 → d.owner ≠ who ∧ d.issuer ≠ who := by
  obtain ⟨d, hd, hl, hc, ho, hw⟩ := mapped_asset_backed .generic _ _
    (trace_dispatchAll System.genesis sampleCalls) 0x01010101#32 (.xcm .parent) (by decide)
  exact ⟨d, hd, hl, hc, ho, fun who hne => hw ⟨who, hne⟩⟩

end Assets
end RuntimeTemplates
