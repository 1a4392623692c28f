import RuntimeTemplates.Reserve.Providers

/-!
# RuntimeTemplates.Transactors

The asset transactors and the currency ids of `xcm_config.rs`: two maps between currencies and
locations that each template configures in different places, with the asset registry in between.

* `AssetRegistry`: the two maps of the asset manager, mutually inverse by a field.
* `assetTransactors`: from the id of an asset to the currency a transactor acts on.
* `currencyIdToLocation`: from a currency id to the location that leaves with the message.
* `currency_routed_iff`: where the second map comes back through the first.
* `native_mint_rejected_iff`: where no remote reserve is trusted for the native currency.
-/

namespace RuntimeTemplates

open Xcm

/-- What a transactor acts on: `Balances`, an entry of `Assets`, or a token contract. -/
inductive Currency (AssetId : Type) where
  | balances
  | assets (id : AssetId)
  | erc20 (contractAddress : H160)
  deriving DecidableEq

/-- The maps `AsAssetType<AssetId, AssetType, AssetManager>` reads, both ways. -/
structure AssetRegistry (AssetId : Type) where
  locationToId : Location → Option AssetId
  idToLocation : AssetId → Option Location
  inverse : ∀ l id, locationToId l = some id ↔ idToLocation id = some l
  foreign : ∀ l id, locationToId l = some id → 1 ≤ l.parents

namespace Evm

inductive CurrencyId where
  | selfReserve
  | foreignAsset (id : AssetId)
  | erc20 (contractAddress : H160)
  deriving DecidableEq

def CurrencyId.currency : CurrencyId → Currency AssetId
  | .selfReserve => .balances
  | .foreignAsset id => .assets id
  | .erc20 contractAddress => .erc20 contractAddress

def balancesPalletLocation (info : PalletInfo) : Location := info.location .balances

def selfReserve (info : PalletInfo) : Location :=
  ⟨0, .x1 (.palletInstance (info.index .balances))⟩

def erc20XcmBridgePalletLocation (info : PalletInfo) : Location := info.location .erc20XcmBridge

def localAssetTransactor (info : PalletInfo) : Transactor (Currency AssetId) :=
  fungibleAdapter .balances (isConcrete (balancesPalletLocation info))

def localFungiblesTransactor (asAssetType : Location → Option AssetId) :
    Transactor (Currency AssetId) :=
  fungiblesAdapter .assets (convertedConcreteId asAssetType)

def assetTransactors (info : PalletInfo) (asAssetType : Location → Option AssetId) :
    Transactor (Currency AssetId) :=
  firstMatch [localAssetTransactor info, localFungiblesTransactor asAssetType]

/-- `CurrencyIdToLocation::convert`. The error of `push_interior` is dropped by `.ok()`, which
leaves the pallet's own location. -/
def currencyIdToLocation (info : PalletInfo) (convertBack : AssetId → Option Location) :
    CurrencyId → Option Location
  | .selfReserve => some (selfReserve info)
  | .foreignAsset asset => convertBack asset
  | .erc20 contractAddress =>
    let location := erc20XcmBridgePalletLocation info
    match location.pushInterior (.accountKey20 none contractAddress) with
    | .ok pushed => some pushed
    | .error _ => some location

end Evm

namespace Generic

inductive CurrencyId where
  | selfReserve
  | foreignAsset (id : AssetId)
  deriving DecidableEq

def CurrencyId.currency : CurrencyId → Currency AssetId
  | .selfReserve => .balances
  | .foreignAsset id => .assets id

def selfReserve (info : PalletInfo) : Location :=
  ⟨0, .x1 (.palletInstance (info.index .balances))⟩

def assetsPalletLocation (info : PalletInfo) : Location := info.location .assets

def localAssetTransactor : Transactor (Currency AssetId) :=
  fungibleAdapter .balances (isConcrete relayLocation)

def localFungiblesTransactor (info : PalletInfo) : Transactor (Currency AssetId) :=
  fungiblesAdapter .assets (trustBackedAssetsConvertedConcreteId (assetsPalletLocation info))

def assetTransactors (info : PalletInfo) : Transactor (Currency AssetId) :=
  firstMatch [localAssetTransactor, localFungiblesTransactor info]

def currencyIdToLocation (info : PalletInfo) (convertBack : AssetId → Option Location) :
    CurrencyId → Option Location
  | .selfReserve => some (selfReserve info)
  | .foreignAsset asset => convertBack asset

end Generic

namespace Template

abbrev CurrencyId : Template → Type
  | .evm => Evm.CurrencyId
  | .generic => Generic.CurrencyId

def currency : (t : Template) → t.CurrencyId → Currency t.AssetId
  | .evm => Evm.CurrencyId.currency
  | .generic => Generic.CurrencyId.currency

/-- Only the EVM template's transactors look an id up in the registry. -/
def assetTransactors : (t : Template) → PalletInfo → (Location → Option t.AssetId) →
    Transactor (Currency t.AssetId)
  | .evm => Evm.assetTransactors
  | .generic => fun info _ => Generic.assetTransactors info

def currencyIdToLocation : (t : Template) → PalletInfo → (t.AssetId → Option Location) →
    t.CurrencyId → Option Location
  | .evm => Evm.currencyIdToLocation
  | .generic => Generic.currencyIdToLocation

end Template

/-! ## What each tuple of transactors matches -/

namespace Evm

variable {info : PalletInfo} {asAssetType : Location → Option AssetId}

theorem assetTransactors_fungible (l : Location) (n : Nat) :
    assetTransactors info asAssetType (.fungible l n) =
      if l = balancesPalletLocation info then some .balances
      else (asAssetType l).map Currency.assets := by
  rw [assetTransactors, firstMatch_cons, firstMatch_cons, firstMatch_nil]
  simp only [localAssetTransactor, fungibleAdapter, isConcrete_fungible, localFungiblesTransactor,
    fungiblesAdapter, convertedConcreteId_fungible]
  split
  · rfl
  · cases asAssetType l <;> rfl

/-- The native transactor of the EVM template claims the location of the balances pallet. -/
theorem assetTransactors_balances {l : Location} {n : Nat} :
    assetTransactors info asAssetType (.fungible l n) = some .balances ↔
      l = balancesPalletLocation info := by
  rw [assetTransactors_fungible]
  split
  · simp [*]
  · cases asAssetType l <;> simp [*]

theorem balances_ne_foreign {l : Location} (h : 1 ≤ l.parents) :
    l ≠ balancesPalletLocation info := by
  rintro rfl
  rw [balancesPalletLocation, PalletInfo.location_parents] at h
  exact absurd h (by decide)

end Evm

namespace Generic

variable {info : PalletInfo}

theorem assetTransactors_fungible (l : Location) (n : Nat) :
    assetTransactors info (.fungible l n) =
      if l = relayLocation then some .balances
      else (asPrefixedGeneralIndex (assetsPalletLocation info) l).map Currency.assets := by
  rw [assetTransactors, firstMatch_cons, firstMatch_cons, firstMatch_nil]
  simp only [localAssetTransactor, fungibleAdapter, isConcrete_fungible, localFungiblesTransactor,
    fungiblesAdapter, trustBackedAssetsConvertedConcreteId, convertedConcreteId_fungible]
  split
  · rfl
  · cases asPrefixedGeneralIndex (assetsPalletLocation info) l <;> rfl

/-- The native transactor of the generic template claims the location of the relay chain. -/
theorem assetTransactors_balances {l : Location} {n : Nat} :
    assetTransactors info (.fungible l n) = some .balances ↔ l = relayLocation := by
  rw [assetTransactors_fungible]
  split
  · simp [*]
  · cases asPrefixedGeneralIndex (assetsPalletLocation info) l <;> simp [*]

/-- An entry of `Assets` is named by a location inside this chain only. -/
theorem assetTransactors_assets {l : Location} {n : Nat} {id : AssetId}
    (h : assetTransactors info (.fungible l n) = some (.assets id)) : l.parents = 0 := by
  rw [assetTransactors_fungible] at h
  split at h
  · cases h
  · obtain ⟨i, hi, -⟩ := Option.map_eq_some_iff.mp h
    exact asPrefixedGeneralIndex_parents hi

end Generic

/-! ## Currency ids against transactors -/

/-- A currency id of the EVM template comes back unless it names a token contract: no member of
the tuple handles the location of the ERC20 bridge. -/
theorem Evm.currency_routed {info : PalletInfo} (r : AssetRegistry Evm.AssetId)
    {c : Evm.CurrencyId} {l : Location} {n : Nat}
    (hc : Evm.currencyIdToLocation info r.idToLocation c = some l) :
    Evm.assetTransactors info r.locationToId (.fungible l n) = some c.currency ↔
      ∀ k, c.currency ≠ .erc20 k := by
  rw [Evm.assetTransactors_fungible]
  cases c with
  | selfReserve =>
    obtain rfl := Option.some.inj hc
    simp [Evm.selfReserve, Evm.balancesPalletLocation, PalletInfo.location, CurrencyId.currency]
  | foreignAsset id =>
    have hl : r.locationToId l = some id := (r.inverse l id).mpr hc
    have hne : l ≠ Evm.balancesPalletLocation info := Evm.balances_ne_foreign (r.foreign l id hl)
    simp [hne, hl, CurrencyId.currency]
  | erc20 k =>
    have hne : ¬ ∀ k', (CurrencyId.erc20 k).currency ≠ .erc20 k' := fun h => h k rfl
    refine iff_of_false ?_ hne
    split
    · simp [CurrencyId.currency]
    · cases r.locationToId l <;> simp [CurrencyId.currency]

/-- No currency id of the generic template comes back: its native transactor listens to the relay
chain's location, its other one to locations inside this chain. -/
theorem Generic.currency_not_routed {info : PalletInfo} (r : AssetRegistry Generic.AssetId)
    {c : Generic.CurrencyId} {l : Location} {n : Nat}
    (hc : Generic.currencyIdToLocation info r.idToLocation c = some l) :
    Generic.assetTransactors info (.fungible l n) ≠ some c.currency := by
  cases c with
  | selfReserve =>
    obtain rfl := Option.some.inj hc
    intro h
    have hl := Generic.assetTransactors_balances.mp h
    exact absurd (congrArg Location.parents hl) (by simp [Generic.selfReserve, relayLocation])
  | foreignAsset id =>
    intro h
    have hp : l.parents = 0 := Generic.assetTransactors_assets h
    have h1 := r.foreign l id ((r.inverse l id).mpr hc)
    rw [hp] at h1
    exact absurd h1 (by decide)

theorem currency_routed_iff (t : Template) (info : PalletInfo) (r : AssetRegistry t.AssetId)
    (c : t.CurrencyId) (l : Location) (n : Nat)
    (hc : t.currencyIdToLocation info r.idToLocation c = some l) :
    t.assetTransactors info r.locationToId (.fungible l n) = some (t.currency c) ↔
      t = .evm ∧ ∀ k, t.currency c ≠ .erc20 k := by
  cases t with
  | evm => exact (Evm.currency_routed r hc).trans ⟨fun h => ⟨rfl, h⟩, And.right⟩
  | generic => exact iff_of_false (Generic.currency_not_routed r hc) fun h => nomatch h.1

def samplePallets : PalletInfo where
  index
    | .balances => 10
    | .assets => 34
    | .polkadotXcm => 31
    | .erc20XcmBridge => 37
  index_injective := by
    intro p q h
    cases p <;> cases q <;> first | rfl | exact absurd h (by decide)

def AssetRegistry.single {AssetId : Type} [DecidableEq AssetId] (l : Location) (id : AssetId)
    (h : 1 ≤ l.parents) : AssetRegistry AssetId where
  locationToId m := if m = l then some id else none
  idToLocation i := if i = id then some l else none
  inverse m i := by
    by_cases hm : m = l
    · simp [hm, eq_comm]
    · simp [hm, Ne.symm hm]
  foreign m i hm := by
    split at hm
    · rename_i heq; rw [heq]; exact h
    · cases hm

/-- The relay chain's token under id 42. -/
def sampleRegistry : AssetRegistry Evm.AssetId := .single .parent 42#128 (by decide)

theorem currency_routed_registered :
    Evm.assetTransactors samplePallets sampleRegistry.locationToId (.fungible .parent 5) =
      some (.assets 42#128) :=
  (currency_routed_iff .evm samplePallets sampleRegistry (.foreignAsset 42#128) .parent 5
    (by decide)).mpr ⟨rfl, fun k h => nomatch h⟩

/-- An ERC20 token of the EVM template and the native token of the generic one convert to a
location that no transactor of the template handles. -/
theorem converted_currency_unhandled :
    (∃ l, Evm.currencyIdToLocation samplePallets sampleRegistry.idToLocation (.erc20 7#160) =
        some l ∧
      Evm.assetTransactors samplePallets sampleRegistry.locationToId (.fungible l 5) = none) ∧
    (∃ l, Generic.currencyIdToLocation samplePallets (fun _ => none) .selfReserve = some l ∧
      Generic.assetTransactors samplePallets (.fungible l 5) = none) :=
  ⟨⟨.new 0 [.palletInstance 37, .accountKey20 none 7#160], by decide⟩,
    ⟨.new 0 [.palletInstance 10], by decide⟩⟩

/-! ## The native currency against the trusted reserves -/

/-- Whatever the template routes to `Balances` has one location for its id. -/
theorem assetTransactors_balances {t : Template} {info : PalletInfo}
    {asAssetType : Location → Option t.AssetId} {l : Location} {n : Nat}
    (h : t.assetTransactors info asAssetType (.fungible l n) = some .balances) :
    (t = .evm ∧ l = info.location .balances) ∨ (t = .generic ∧ l = .parent) := by
  cases t with
  | evm => exact .inl ⟨rfl, Evm.assetTransactors_balances.mp h⟩
  | generic => exact .inr ⟨rfl, Generic.assetTransactors_balances.mp h⟩

/-- The location of a pallet has `here` for its reserve, so no remote origin is trusted for it. -/
theorem reserves_pallet_rejected (t : Template) (info : PalletInfo) (p : Pallet) (selfId : UInt32)
    {n : Nat} {o : Location} (ho : o ≠ .here) :
    Reserve.reserves (t.reserveConfig selfId) (.fungible (info.location p) n) o = false := by
  rw [← Bool.not_eq_true, Reserve.reserves_iff]
  rintro (⟨-, hp, -⟩ | ⟨-, hid, -⟩ | hnat)
  · exact absurd hp (by simp)
  · exact absurd (congrArg Location.parents hid) (by simp)
  · rw [Asset.fungible_id, Reserve.nativeReserve_local selfId (by simp) rfl] at hnat
    exact ho hnat.symm

/-- The relay chain's token is trusted from Asset Hub and from the relay chain. -/
theorem reserves_parent_rejected_iff (t : Template) (selfId : UInt32) {n : Nat} {o : Location} :
    Reserve.reserves (t.reserveConfig selfId) (.fungible .parent n) o = false ↔
      o ≠ .sibling 1000 ∧ o ≠ .parent := by
  have hnat : Reserve.nativeReserve selfId .parent = .parent := by
    have hne : Location.chainLocation .parent ≠ .sibling selfId := fun h =>
      Location.sibling_ne_parent selfId h.symm
    rw [Reserve.nativeReserve, if_neg (fun h => absurd h.1 (by decide)), if_neg hne]
    rfl
  rw [← Bool.not_eq_true, Reserve.reserves_iff, Asset.fungible_id, hnat]
  constructor
  · intro h
    exact ⟨fun ho => h (.inr (.inl ⟨rfl, rfl, ho⟩)), fun ho => h (.inr (.inr ho.symm))⟩
  · rintro ⟨hhub, hrelay⟩ (⟨ho, -, -⟩ | ⟨-, -, ho⟩ | ho)
    · exact hhub ho
    · exact hhub ho
    · exact hrelay ho.symm

/-- Nobody but this chain can mint its native currency, in the EVM template; in the generic one the
native transactor listens to the relay chain's token, which the two reserves of that token mint. -/
theorem native_mint_rejected_iff (t : Template) (info : PalletInfo)
    (asAssetType : Location → Option t.AssetId) (selfId : UInt32) (l : Location) (n : Nat)
    (o : Location) (hl : t.assetTransactors info asAssetType (.fungible l n) = some .balances)
    (ho : o ≠ .here) :
    Reserve.reserves (t.reserveConfig selfId) (.fungible l n) o = false ↔
      t = .evm ∨ (o ≠ .sibling 1000 ∧ o ≠ .parent) := by
  rcases assetTransactors_balances hl with ⟨rfl, rfl⟩ | ⟨rfl, rfl⟩
  · exact iff_of_true (reserves_pallet_rejected .evm info .balances selfId ho) (.inl rfl)
  · rw [reserves_parent_rejected_iff]
    simp

theorem native_mint_rejected_sibling :
    Reserve.reserves (Generic.reserveConfig 2000) (.fungible .parent 5) (.sibling 2001) = false :=
  (native_mint_rejected_iff .generic samplePallets (fun _ => none) 2000 .parent 5 (.sibling 2001)
    (by decide) (by decide)).mpr (.inr (by decide))

/-- The relay chain sends its own token, and the generic template mints its native one. -/
theorem relay_mints_native :
    Generic.assetTransactors samplePallets (.fungible .parent 5) = some .balances ∧
      Location.parent ≠ .here ∧
      Reserve.reserves (Generic.reserveConfig 2000) (.fungible .parent 5) .parent = true := by
  decide

end RuntimeTemplates
