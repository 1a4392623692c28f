import RuntimeTemplates.Reserve.Providers

/-!
# RuntimeTemplates.Reserve.Trust

How the inbound rules (`Reserves`) and the outbound providers (`ReserveProviders`) relate, for
every asset and every location.

* `reserves_confined`: what can be trusted at all. Apart from this chain itself, a location is
  trusted for what lies inside it, and Asset Hub for the relay token and for assets two parents up.
* `reserves_outbound_iff`: an asset released at a reserve is trusted from there, except that
  `BridgedAssetReserveProvider` sends every `GlobalConsensus` asset with two or more parents to
  Asset Hub while `IsBridgedConcreteAssetFrom` takes only those with exactly two back.
-/

namespace RuntimeTemplates
namespace Reserve

open Xcm

variable (t : Template) (selfId : UInt32)

theorem not_here_of_firstInterior {o : Location} {j : Junction}
    (h : o.firstInterior = some j) : o ≠ .here := by
  rintro rfl
  cases h

theorem nativeReserve_confined {l o : Location} (h : nativeReserve selfId l = o) :
    (o = .here ∧ (l.parents = 0 ∨ l.Under (.sibling selfId))) ∨ l.Under o := by
  rcases nativeReserve_cases selfId l with ⟨hn, hl⟩ | hn
  · exact .inl ⟨by rw [← h, hn], hl⟩
  · right
    rw [← h, hn]
    exact l.under_chainLocation

theorem reserves_confined (a : Asset) (o : Location)
    (h : reserves (t.reserveConfig selfId) a o = true) :
    ((o = .here ∧ (a.id.parents = 0 ∨ a.id.Under (.sibling selfId))) ∨
      a.id.Under o ∨
      (o = .sibling 1000 ∧ a.isFungible = true ∧ (a.id = .parent ∨ a.id.parents = 2))) ∧
    ∀ p : UInt32, p ≠ 1000 → o.parents = 1 → o.firstInterior = some (.parachain p) →
      a.id.Under o := by
  have hcases : (o = .here ∧ (a.id.parents = 0 ∨ a.id.Under (.sibling selfId))) ∨
      a.id.Under o ∨
      (o = .sibling 1000 ∧ a.isFungible = true ∧ (a.id = .parent ∨ a.id.parents = 2)) := by
    rcases (reserves_iff selfId t a o).mp h with ⟨ho, hp, hf⟩ | ⟨hf, hp, ho⟩ | hn
    · exact .inr (.inr ⟨ho, hf, .inr hp⟩)
    · exact .inr (.inr ⟨ho, hf, .inl hp⟩)
    · rcases nativeReserve_confined selfId hn with hh | hu
      · exact .inl hh
      · exact .inr (.inl hu)
  refine ⟨hcases, ?_⟩
  intro p hp _ hfirst
  rcases hcases with ⟨ho, _⟩ | hu | ⟨ho, _⟩
  · exact absurd ho (not_here_of_firstInterior hfirst)
  · exact hu
  · -- Asset Hub is parachain 1000, so it is not the sibling `p`
    rw [ho] at hfirst
    injection hfirst with hj
    injection hj with hid
    exact absurd hid.symm hp

/-- An asset of Asset Hub's pallet 50, trusted from Asset Hub because it lies inside it. -/
theorem reserves_confined_assetHub :
    (Location.new 1 [.parachain 1000, .palletInstance 50, .generalIndex 1984]).Under
      (.sibling 1000) := by
  have h := (reserves_confined .evm 2000
    (.fungible (.new 1 [.parachain 1000, .palletInstance 50, .generalIndex 1984]) 7)
    (.sibling 1000) (by decide)).1
  rcases h with ⟨ho, _⟩ | hu | ⟨_, _, hp⟩
  · exact absurd ho (Location.sibling_ne_here 1000)
  · exact hu
  · exact absurd hp (by decide)

/-! ## What goes out and what comes back -/

theorem native_trusted {a : Asset} :
    reserves (t.reserveConfig selfId) a (nativeReserve selfId a.id) = true :=
  (reserves_iff selfId t a _).mpr (.inr (.inr rfl))

/-- The chain part of a location further up than Asset Hub is not Asset Hub. -/
theorem nativeReserve_ne_assetHub {l : Location} (h : 1 < l.parents) :
    nativeReserve selfId l ≠ .sibling 1000 := by
  intro he
  have hp : l.parents = 1 := by
    rw [← l.chainLocation_parents, ← nativeReserve_remote selfId h, he, Location.sibling_parents]
  rw [hp] at h
  exact absurd h (by decide)

theorem assetHub_trusted_iff {a : Asset} (hf : a.isFungible = true) (h : HeldOnAssetHub a.id) :
    reserves (t.reserveConfig selfId) a (.sibling 1000) = true ↔ ¬ 2 < a.id.parents := by
  rw [reserves_iff]
  rcases h with hp | ⟨hp, _⟩
  · simp [hp, hf]
  · have hne := nativeReserve_ne_assetHub selfId hp
    have hpar : a.id ≠ .parent := by
      intro he; rw [he] at hp; exact absurd hp (by decide)
    have h2 : a.id.parents = 2 ↔ ¬ 2 < a.id.parents := by
      rw [← UInt8.toNat_inj, UInt8.lt_iff_toNat_lt]
      rw [UInt8.lt_iff_toNat_lt] at hp
      have e1 : (1 : UInt8).toNat = 1 := rfl
      have e2 : (2 : UInt8).toNat = 2 := rfl
      omega
    simp only [hne, hpar, hf, and_true, true_and, and_false, or_false, h2]

/-- An outgoing asset's reserve is trusted for it unless it is a bridged asset more than two
parents up. -/
theorem reserves_outbound_iff (a : Asset) (r : Location) (hf : a.isFungible = true)
    (hr : reserveProviders (t.reserveConfig selfId) a = some r) (hne : r ≠ .here) :
    reserves (t.reserveConfig selfId) a r = true ↔
      ¬ (2 < a.id.parents ∧ a.id.splitGlobalIsOk = true) := by
  by_cases h : HeldOnAssetHub a.id
  · rw [reserveProviders_assetHub selfId t h] at hr
    cases hr
    rw [assetHub_trusted_iff t selfId hf h]
    rcases h with hp | ⟨_, hg⟩
    · simp [hp, Location.splitGlobalIsOk]
    · simp [hg]
  · rw [reserveProviders_native selfId t h] at hr
    cases hr
    have hgc : ¬ (2 < a.id.parents ∧ a.id.splitGlobalIsOk = true) := by
      rintro ⟨hp, hg⟩
      refine h (.inr ⟨?_, hg⟩)
      exact UInt8.lt_trans (by decide) hp
    simp only [hgc, not_false_iff, iff_true]
    exact native_trusted t selfId

/-- An Ethereum asset, two parents up, goes to Asset Hub and comes back from there. -/
theorem reserves_outbound_ethereum :
    reserves (Template.evm.reserveConfig 2000)
      (.fungible (.new 2 [.globalConsensus (.ethereum 1)]) 5) (.sibling 1000) = true :=
  (reserves_outbound_iff .evm 2000 (.fungible (.new 2 [.globalConsensus (.ethereum 1)]) 5)
    (.sibling 1000) rfl (by decide) (by decide)).mpr (by decide)

/-- The same asset three parents up goes to Asset Hub too, but is not trusted from there. -/
theorem bridged_asset_stranded :
    ¬ (∀ (t : Template) (selfId : UInt32) (a : Asset) (r : Location), a.isFungible = true →
      reserveProviders (t.reserveConfig selfId) a = some r → r ≠ .here →
      reserves (t.reserveConfig selfId) a r = true) ∧
    ∀ t : Template,
      reserveProviders (t.reserveConfig 2000)
        (.fungible (.new 3 [.globalConsensus (.ethereum 1)]) 5) = some (.sibling 1000) ∧
      reserves (t.reserveConfig 2000)
        (.fungible (.new 3 [.globalConsensus (.ethereum 1)]) 5) (.sibling 1000) = false := by
  have hrun : ∀ t : Template,
      reserveProviders (t.reserveConfig 2000)
        (.fungible (.new 3 [.globalConsensus (.ethereum 1)]) 5) = some (.sibling 1000) ∧
      reserves (t.reserveConfig 2000)
        (.fungible (.new 3 [.globalConsensus (.ethereum 1)]) 5) (.sibling 1000) = false := by
    intro t
    cases t <;> decide
  refine ⟨?_, hrun⟩
  intro hall
  have htrue := hall .evm 2000 _ _ rfl (hrun .evm).1 (by decide)
  rw [(hrun .evm).2] at htrue
  cases htrue

end Reserve
end RuntimeTemplates
