import RuntimeTemplates.Transactors

/-!
# RuntimeTemplates.Reserve.FeeFilter

`AssetFeesFilter`, which says which assets may pay XCM fees: the ones of other chains. It looks at
the number of parents and at the first junction of an asset's id, and compares the latter with a
pallet of this chain. Which chain an asset belongs to is what `ReserveProviders` answers.

* `assetFeesFilter`: the filter, for each template over the pallet it names.
* `Separates`: what the filter is for. It admits an asset exactly if the asset's reserve lies
  outside this chain.
* `fees_separated_iff`: it does so except for the absolute spelling of an own asset, which it
  admits, and for a remote id that starts with the junction of the pallet, which it refuses.
-/

namespace RuntimeTemplates

open Xcm

/-- `AssetFeesFilter::contains`, over the pallet's location. -/
def assetFeesFilterOver (palletLocation location : Location) : Bool :=
  location.parents > 0 && location.firstInterior != palletLocation.firstInterior

namespace Evm

def assetFeesFilter (info : PalletInfo) : Location → Bool :=
  assetFeesFilterOver (erc20XcmBridgePalletLocation info)

end Evm

namespace Generic

def polkadotXcmLocation (info : PalletInfo) : Location := info.location .polkadotXcm

def assetFeesFilter (info : PalletInfo) : Location → Bool :=
  assetFeesFilterOver (polkadotXcmLocation info)

end Generic

namespace Template

def assetFeesFilter : Template → PalletInfo → Location → Bool
  | .evm => Evm.assetFeesFilter
  | .generic => Generic.assetFeesFilter

/-- The pallet whose junction the filter refuses. -/
def feesPallet : Template → Pallet
  | .evm => .erc20XcmBridge
  | .generic => .polkadotXcm

theorem assetFeesFilter_iff (t : Template) (info : PalletInfo) (l : Location) :
    t.assetFeesFilter info l = true ↔
      l.parents ≠ 0 ∧ l.firstInterior ≠ some (.palletInstance (info.index t.feesPallet)) := by
  have hover : ∀ p : Pallet, assetFeesFilterOver (info.location p) l = true ↔
      l.parents ≠ 0 ∧ l.firstInterior ≠ some (.palletInstance (info.index p)) := by
    intro p
    rw [assetFeesFilterOver, Bool.and_eq_true, decide_eq_true_iff, bne_iff_ne, gt_iff_lt,
      UInt8.pos_iff_ne_zero]
    rfl
  cases t with
  | evm => exact hover .erc20XcmBridge
  | generic => exact hover .polkadotXcm

end Template

namespace Reserve

variable (t : Template) (info : PalletInfo) (selfId : UInt32)

/-- The asset is one of this chain, in its relative or in its absolute spelling. -/
def OwnAsset (l : Location) : Prop := l.parents = 0 ∨ l.Under (.sibling selfId)

instance (l : Location) : Decidable (OwnAsset selfId l) := inferInstanceAs (Decidable (_ ∨ _))

/-- The filter admits what has its reserve outside this chain: none of its own assets, and every
other one. -/
structure Separates (l : Location) (amount : Nat) : Prop where
  by_reserve : t.assetFeesFilter info l = true ↔
    ∃ r, reserveProviders (t.reserveConfig selfId) (.fungible l amount) = some r ∧ 1 ≤ r.parents
  own_refused : OwnAsset selfId l → t.assetFeesFilter info l = false
  foreign_admitted : ¬ OwnAsset selfId l → t.assetFeesFilter info l = true

/-! ## Reserves of own and of foreign assets -/

variable {selfId} {l : Location}

theorem not_heldOnAssetHub_local (hp : l.parents = 0) : ¬ HeldOnAssetHub l := by
  rintro (h | ⟨h, -⟩)
  · rw [h] at hp
    exact absurd hp (by decide)
  · rw [hp] at h
    exact absurd h (by decide)

theorem firstInterior_of_under (h : l.Under (.sibling selfId)) :
    l.firstInterior = some (.parachain selfId) := by
  obtain ⟨rest, hrest⟩ := h.2
  rw [Location.firstInterior, ← hrest]
  rfl

theorem one_le_iff {p : UInt8} : 1 ≤ p ↔ p ≠ 0 := by
  rw [← UInt8.pos_iff_ne_zero, UInt8.le_iff_toNat_le, UInt8.lt_iff_toNat_lt]
  exact Nat.succ_le_iff

theorem reserve_local (hp : l.parents = 0) (amount : Nat) :
    ¬ ∃ r, reserveProviders (t.reserveConfig selfId) (.fungible l amount) = some r ∧
      1 ≤ r.parents := by
  rintro ⟨r, hr, hout⟩
  rw [reserveProviders_native selfId t (not_heldOnAssetHub_local hp)] at hr
  obtain rfl := Option.some.inj hr
  refine one_le_iff.mp hout ?_
  rcases nativeReserve_cases selfId l with ⟨h, -⟩ | h
  · rw [Asset.fungible_id, h]
    rfl
  · rw [Asset.fungible_id, h, Location.chainLocation_parents, hp]

/-- What lies outside this chain has its reserve there too. -/
theorem reserve_foreign (h : ¬ OwnAsset selfId l) (amount : Nat) :
    ∃ r, reserveProviders (t.reserveConfig selfId) (.fungible l amount) = some r ∧
      1 ≤ r.parents := by
  obtain ⟨hp, hu⟩ := not_or.mp h
  refine ⟨_, reserveProviders_eq selfId t _, ?_⟩
  rw [Asset.fungible_id]
  split
  · exact le_refl 1
  · have hne : l.chainLocation ≠ .sibling selfId := fun hc => hu (hc ▸ l.under_chainLocation)
    rw [nativeReserve, if_neg fun hl => hp hl.1, if_neg hne, Location.chainLocation_parents]
    exact one_le_iff.mpr hp

/-! ## The filter against the reserves -/

theorem separates_local (hp : l.parents = 0) (amount : Nat) :
    Separates t info selfId l amount := by
  have hrefused : t.assetFeesFilter info l = false := by
    rw [← Bool.not_eq_true, t.assetFeesFilter_iff]
    exact fun h => h.1 hp
  exact {
    by_reserve := iff_of_false (by simp [hrefused]) (reserve_local t hp amount)
    own_refused := fun _ => hrefused
    foreign_admitted := fun h => absurd (.inl hp) h }

/-- The absolute spelling of an own asset starts with a parachain, so the filter lets it pass. -/
theorem admits_under (h : l.Under (.sibling selfId)) : t.assetFeesFilter info l = true := by
  rw [t.assetFeesFilter_iff, h.1, firstInterior_of_under h]
  exact ⟨by simp, by simp⟩

theorem fees_separated_iff (selfId : UInt32) (l : Location) (amount : Nat) :
    Separates t info selfId l amount ↔
      ¬ l.Under (.sibling selfId) ∧
        (l.parents = 0 ∨ l.firstInterior ≠ some (.palletInstance (info.index t.feesPallet))) := by
  by_cases hp : l.parents = 0
  · have hnot : ¬ l.Under (.sibling selfId) := by
      intro hu
      rw [hu.1] at hp
      exact absurd hp (by simp)
    exact iff_of_true (separates_local t info hp amount) ⟨hnot, .inl hp⟩
  · by_cases hu : l.Under (.sibling selfId)
    · refine iff_of_false ?_ fun h => h.1 hu
      intro h
      have hrefused := h.own_refused (.inr hu)
      rw [admits_under t info hu] at hrefused
      cases hrefused
    · have hforeign : ¬ OwnAsset selfId l := not_or.mpr ⟨hp, hu⟩
      constructor
      · intro h
        have hadmits := h.foreign_admitted hforeign
        rw [t.assetFeesFilter_iff] at hadmits
        exact ⟨hu, .inr hadmits.2⟩
      · rintro ⟨-, hfirst⟩
        have hadmits : t.assetFeesFilter info l = true :=
          (t.assetFeesFilter_iff info l).mpr ⟨hp, hfirst.resolve_left hp⟩
        exact {
          by_reserve := iff_of_true hadmits (reserve_foreign t hforeign amount)
          own_refused := fun h => absurd h hforeign
          foreign_admitted := fun _ => hadmits }

/-- The chain's own absolute location may pay fees though its reserve is here, and an asset of the
relay chain's pallet with the index of the named pallet may not though its reserve is not. -/
theorem fees_not_separated :
    (∀ t : Template, ¬ (t.assetFeesFilter samplePallets (.sibling 2000) = true ↔
      ∃ r, reserveProviders (t.reserveConfig 2000) (.fungible (.sibling 2000) 5) = some r ∧
        1 ≤ r.parents)) ∧
    ∀ t : Template,
      ¬ (t.assetFeesFilter samplePallets
            (.new 1 [.palletInstance (samplePallets.index t.feesPallet)]) = true ↔
          ∃ r, reserveProviders (t.reserveConfig 2000)
            (.fungible (.new 1 [.palletInstance (samplePallets.index t.feesPallet)]) 5) = some r ∧
              1 ≤ r.parents) := by
  constructor
  · intro t h
    have hadmits : t.assetFeesFilter samplePallets (.sibling 2000) = true := by
      cases t <;> decide
    have hhere : reserveProviders (t.reserveConfig 2000) (.fungible (.sibling 2000) 5) =
        some .here := by
      cases t <;> decide
    obtain ⟨r, hr, hout⟩ := h.mp hadmits
    rw [hhere] at hr
    obtain rfl := Option.some.inj hr
    exact absurd hout (by decide)
  · intro t h
    have hout := h.mpr (reserve_foreign t (by cases t <;> decide) 5)
    cases t <;> exact absurd hout (by decide)

end Reserve
end RuntimeTemplates
