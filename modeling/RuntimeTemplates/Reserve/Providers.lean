import RuntimeTemplates.Template
import RuntimeTemplates.Xcm.Builder

/-!
# RuntimeTemplates.Reserve.Providers

The reserve rules of `xcm_config.rs`. `Reserves` decides from which origin an incoming asset is
trusted to be backed; `ReserveProviders` decides at which reserve an outgoing asset is released.
Both templates declare them with the same text over their own constants, so each is one
definition over a `ReserveConfig`.

* `nativeReserve`: what `AbsoluteAndRelativeReserve` answers, as a function of the asset's id.
* `reserves_iff`, `reserveProviders_eq`: what the two tuples compute, rule by rule.
-/

namespace RuntimeTemplates
namespace Reserve

open Xcm

variable (c : ReserveConfig)

/-! ## Inbound: who is trusted -/

def isBridgedConcreteAssetFrom (loc : Location) : ContainsPair := fun asset origin =>
  loc == origin && (asset.id.parents == 2 && asset.isFungible)

def relayLocationFilter : AssetFilter := .allOf c.relayLocation .fungible

def relayChainNativeAssetFromAssetHub : AssetFilter × Location :=
  (relayLocationFilter c, c.assetHubLocation)

/-! ## Outbound: where an asset is held -/

/-- `DOTReserveProvider`: the relay token is held on Asset Hub. -/
def dotReserveProvider : Xcm.Reserve := fun asset =>
  let dotHere : Location := ⟨1, .here⟩
  let dotAssetHub := c.assetHubLocation
  if asset.id = dotHere then some dotAssetHub else none

/-- `BridgedAssetReserveProvider`: what starts with a `GlobalConsensus` is held on Asset Hub. -/
def bridgedAssetReserveProvider : Xcm.Reserve := fun asset =>
  let assetHubReserve := c.assetHubLocation
  if asset.id.parents > 1 ∧ asset.id.splitGlobalIsOk then some assetHubReserve else none

def firstIsParachain (l : Location) : Bool :=
  match l.firstInterior with
  | some (.parachain _) => true
  | _ => false

def relativeReserveProvider : Xcm.Reserve := fun asset =>
  if asset.id.parents = 0 ∧ ¬ firstIsParachain asset.id then some Location.here
  else some asset.id.chainLocation

def absoluteAndRelativeReserve (absolute : Location) : Xcm.Reserve := fun asset =>
  (relativeReserveProvider asset).map fun relativeReserve =>
    if relativeReserve = absolute then Location.here else relativeReserve

/-- `ReserveProviders`: the three providers in sequence. -/
def reserveProviders : Xcm.Reserve := fun asset =>
  (dotReserveProvider c asset).orElse fun _ =>
    (bridgedAssetReserveProvider c asset).orElse fun _ =>
      absoluteAndRelativeReserve c.selfLocationAbsolute asset

/-- `Reserves`: the tuple of trust rules the XCM executor is configured with. -/
def reserves : ContainsPair := anyOf [
  isBridgedConcreteAssetFrom c.assetHubLocation,
  case (relayChainNativeAssetFromAssetHub c),
  multiNativeAsset (absoluteAndRelativeReserve c.selfLocationAbsolute)]

/-! ## The reserve in the absolute and relative view -/

section Spec

variable (selfId : UInt32)

/-- What `AbsoluteAndRelativeReserve` answers on parachain `selfId` for an asset with id `l`. -/
def nativeReserve (l : Location) : Location :=
  if l.parents = 0 ∧ ¬ firstIsParachain l then .here
  else if l.chainLocation = .sibling selfId then .here else l.chainLocation

theorem absoluteAndRelativeReserve_eq (a : Asset) :
    absoluteAndRelativeReserve (.sibling selfId) a = some (nativeReserve selfId a.id) := by
  simp only [absoluteAndRelativeReserve, relativeReserveProvider, nativeReserve]
  split
  · simp [(Location.sibling_ne_here selfId).symm]
  · rfl

theorem nativeReserve_cases (l : Location) :
    (nativeReserve selfId l = .here ∧ (l.parents = 0 ∨ l.Under (.sibling selfId))) ∨
      nativeReserve selfId l = l.chainLocation := by
  unfold nativeReserve
  split
  · rename_i h; exact .inl ⟨rfl, .inl h.1⟩
  · split
    · rename_i h
      exact .inl ⟨rfl, .inr (h ▸ l.under_chainLocation)⟩
    · exact .inr rfl

/-- The reserve of an asset of this chain, spelled relatively, is `here`. -/
theorem nativeReserve_local {l : Location} (hp : l.parents = 0)
    (hf : firstIsParachain l = false) : nativeReserve selfId l = .here := by
  simp [nativeReserve, hp, hf]

/-- Outside the own relay chain no own spelling exists, so the reserve is the chain part. -/
theorem nativeReserve_remote {l : Location} (hp : 1 < l.parents) :
    nativeReserve selfId l = l.chainLocation := by
  have h0 : l.parents ≠ 0 := by
    intro h; rw [h] at hp; exact absurd hp (by decide)
  have hne : l.chainLocation ≠ .sibling selfId := by
    intro h
    have hpar : l.parents = 1 := by rw [← l.chainLocation_parents, h, Location.sibling_parents]
    rw [hpar] at hp
    exact absurd hp (by decide)
  simp [nativeReserve, h0, hne]

/-! ## What the two tuples compute -/

variable (t : Template)

theorem reserves_iff (a : Asset) (o : Location) :
    reserves (t.reserveConfig selfId) a o = true ↔
      (o = .sibling 1000 ∧ a.id.parents = 2 ∧ a.isFungible = true) ∨
      (a.isFungible = true ∧ a.id = .parent ∧ o = .sibling 1000) ∨
      nativeReserve selfId a.id = o := by
  simp only [reserves, anyOf, List.any_cons, List.any_nil, Bool.or_false, Bool.or_eq_true,
    isBridgedConcreteAssetFrom, relayChainNativeAssetFromAssetHub, relayLocationFilter,
    case_fungible, multiNativeAsset_iff, Bool.and_eq_true, beq_iff_eq,
    Template.assetHubLocation_eq, Template.relayLocation_eq, Template.selfLocationAbsolute_eq,
    absoluteAndRelativeReserve_eq, Option.some.injEq, eq_comm (a := o)]

/-- An asset with id `l` is released on Asset Hub, by one of the first two providers. -/
def HeldOnAssetHub (l : Location) : Prop :=
  l = .parent ∨ (1 < l.parents ∧ l.splitGlobalIsOk = true)

instance (l : Location) : Decidable (HeldOnAssetHub l) := inferInstanceAs (Decidable (_ ∨ _))

theorem reserveProviders_assetHub {a : Asset} (h : HeldOnAssetHub a.id) :
    reserveProviders (t.reserveConfig selfId) a = some (.sibling 1000) := by
  by_cases hp : a.id = .parent
  · simp [reserveProviders, dotReserveProvider, hp, Location.parent]
  · have hb := h.resolve_left hp
    have hd : ¬ a.id = ⟨1, .here⟩ := hp
    simp [reserveProviders, dotReserveProvider, bridgedAssetReserveProvider, hd, hb.1, hb.2]

theorem reserveProviders_native {a : Asset} (h : ¬ HeldOnAssetHub a.id) :
    reserveProviders (t.reserveConfig selfId) a = some (nativeReserve selfId a.id) := by
  have hd : ¬ a.id = ⟨1, .here⟩ := fun hp => h (.inl hp)
  have hb : ¬ (1 < a.id.parents ∧ a.id.splitGlobalIsOk = true) := fun hb => h (.inr hb)
  simp only [reserveProviders, dotReserveProvider, bridgedAssetReserveProvider, gt_iff_lt, hd, hb,
    if_false, Option.orElse_none, Template.selfLocationAbsolute_eq, absoluteAndRelativeReserve_eq]

/-- `ReserveProviders` answers for every asset. -/
theorem reserveProviders_eq (a : Asset) :
    reserveProviders (t.reserveConfig selfId) a =
      some (if HeldOnAssetHub a.id then .sibling 1000 else nativeReserve selfId a.id) := by
  by_cases h : HeldOnAssetHub a.id
  · rw [reserveProviders_assetHub selfId t h, if_pos h]
  · rw [reserveProviders_native selfId t h, if_neg h]

end Spec

end Reserve
end RuntimeTemplates
