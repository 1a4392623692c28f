import RuntimeTemplates.Reserve.Providers

/-!
# RuntimeTemplates.Reserve.Spelling

How `ReserveProviders` answers for the assets of this chain itself. An asset of the chain has a
relative spelling `(0, I)` and an absolute one, `(1, [Parachain(self)])` followed by `I`, and the
reserve of both should be `here`.

* `own_reserve_here_iff`: the chain's own absolute location is never named as a reserve, except by
  the two providers that answer Asset Hub, on a chain with the para id of Asset Hub.
* `spellings_agree_iff`: the two spellings have one reserve exactly if no junction of `I` names a
  chain. The relative spelling looks at the first junction only, the absolute one at the last
  junction that names a chain.
-/

namespace RuntimeTemplates
namespace Reserve

open Xcm

variable (t : Template) (selfId : UInt32)

theorem nativeReserve_ne_self (l : Location) : nativeReserve selfId l ≠ .sibling selfId := by
  intro h
  unfold nativeReserve at h
  split at h
  · exact Location.sibling_ne_here selfId h.symm
  · split at h
    · exact Location.sibling_ne_here selfId h.symm
    · rename_i hne; exact hne h

theorem sibling_inj {p q : UInt32} : Location.sibling p = .sibling q ↔ p = q := by
  constructor
  · intro h
    have hi := (Location.eq_iff.mp h).2
    simpa using hi
  · rintro rfl; rfl

/-- An asset whose reserve is this chain is reported as `here`, unless the chain has the para id of
Asset Hub and one of the first two providers answers. -/
theorem own_reserve_here_iff (a : Asset) :
    reserveProviders (t.reserveConfig selfId) a ≠
        some (t.reserveConfig selfId).selfLocationAbsolute ↔
      ¬ (selfId = 1000 ∧ HeldOnAssetHub a.id) := by
  rw [reserveProviders_eq, Template.selfLocationAbsolute_eq, Ne, Option.some.injEq, not_iff_not]
  by_cases h : HeldOnAssetHub a.id
  · rw [if_pos h, sibling_inj]
    simp [h, eq_comm]
  · rw [if_neg h]
    exact iff_of_false (nativeReserve_ne_self selfId a.id) fun hc => h hc.2

/-- On the para id of the shipped genesis, the relay token is held on the chain's own absolute
location. -/
theorem own_reserve_named :
    reserveProviders (Evm.reserveConfig 1000) (.fungible .parent 1) =
        some (Evm.selfLocationAbsolute 1000) ∧
      reserveProviders (Generic.reserveConfig 1000) (.fungible .parent 1) =
        some (Generic.selfLocationAbsolute 1000) := by
  decide

/-! ## The two spellings of a local asset -/

def relativeSpelling (interior : List Junction) (h : interior.length ≤ 7) : Location :=
  ⟨0, ⟨interior, h.trans (Nat.le_succ 7)⟩⟩

def absoluteSpelling (interior : List Junction) (h : interior.length ≤ 7) : Location :=
  ⟨1, ⟨.parachain selfId :: interior, Nat.succ_le_succ h⟩⟩

variable {selfId} {interior : List Junction} {h : interior.length ≤ 7}

theorem relative_reserve (hfirst : ∀ id, interior.head? ≠ some (.parachain id)) (f : Fungibility) :
    reserveProviders (t.reserveConfig selfId) ⟨relativeSpelling interior h, f⟩ = some .here := by
  have hhub : ¬ HeldOnAssetHub (relativeSpelling interior h) := by
    rintro (hp | ⟨hp, -⟩)
    · exact absurd (congrArg Location.parents hp) (by simp [relativeSpelling])
    · exact absurd hp (by simp [relativeSpelling])
  have hnot : firstIsParachain (relativeSpelling interior h) = false := by
    unfold firstIsParachain
    split
    · rename_i id hid; exact absurd hid (hfirst id)
    · rfl
  rw [reserveProviders_native selfId t hhub, nativeReserve_local selfId rfl hnot]

theorem absolute_reserve (f : Fungibility) :
    reserveProviders (t.reserveConfig selfId) ⟨absoluteSpelling selfId interior h, f⟩ =
      if Location.chainPart interior = [] then some .here
      else some (absoluteSpelling selfId interior h).chainLocation := by
  have hhub : ¬ HeldOnAssetHub (absoluteSpelling selfId interior h) := by
    rintro (hp | ⟨hp, -⟩)
    · exact absurd (congrArg (fun l => l.interior.items) hp) (by simp [absoluteSpelling])
    · exact absurd hp (by simp [absoluteSpelling])
  have hself : (absoluteSpelling selfId interior h).chainLocation = .sibling selfId ↔
      Location.chainPart interior = [] := by
    have hcons := Location.chainPart_cons (Junction.isChain_parachain selfId) interior
    rw [Location.eq_iff, Location.chainLocation_items]
    simp [absoluteSpelling, hcons]
  rw [reserveProviders_native selfId t hhub, nativeReserve, if_neg (by simp [absoluteSpelling])]
  by_cases hc : Location.chainPart interior = []
  · rw [if_pos (hself.mpr hc), if_pos hc]
  · rw [if_neg (mt hself.mp hc), if_neg hc]

theorem spellings_agree_iff (selfId : UInt32) (interior : List Junction)
    (h : interior.length ≤ 7) (hfirst : ∀ id, interior.head? ≠ some (.parachain id))
    (f : Fungibility) :
    reserveProviders (t.reserveConfig selfId) ⟨relativeSpelling interior h, f⟩ =
        reserveProviders (t.reserveConfig selfId) ⟨absoluteSpelling selfId interior h, f⟩ ↔
      ∀ j ∈ interior, j.isChain = false := by
  rw [relative_reserve t hfirst, absolute_reserve, ← Location.chainPart_eq_nil_iff]
  by_cases hc : Location.chainPart interior = []
  · simp [hc]
  · -- the absolute spelling keeps its one parent, so its reserve is not `here`
    rw [if_neg hc]
    refine iff_of_false ?_ hc
    intro he
    have hp := congrArg Location.parents (Option.some.inj he)
    exact absurd hp (by simp [absoluteSpelling])

/-- An asset of the chain's pallet 50 has one reserve in both spellings. -/
theorem spellings_agree_pallet :
    reserveProviders (Template.evm.reserveConfig 2000)
        ⟨relativeSpelling [.palletInstance 50, .generalIndex 42] (by decide), .fungible 5⟩ =
      reserveProviders (Template.evm.reserveConfig 2000)
        ⟨absoluteSpelling 2000 [.palletInstance 50, .generalIndex 42] (by decide), .fungible 5⟩ :=
  (spellings_agree_iff .evm 2000 [.palletInstance 50, .generalIndex 42] (by decide)
    (fun id h => by cases h) (.fungible 5)).mpr (by decide)

/-- With a consensus system, or with a parachain after the first junction, they differ. -/
theorem spellings_differ :
    (∀ t : Template,
      reserveProviders (t.reserveConfig 2000)
          ⟨relativeSpelling [.globalConsensus .polkadot] (by decide), .fungible 5⟩ ≠
        reserveProviders (t.reserveConfig 2000)
          ⟨absoluteSpelling 2000 [.globalConsensus .polkadot] (by decide), .fungible 5⟩) ∧
    ∀ t : Template,
      reserveProviders (t.reserveConfig 2000)
          ⟨relativeSpelling [.palletInstance 50, .parachain 7] (by decide), .fungible 5⟩ ≠
        reserveProviders (t.reserveConfig 2000)
          ⟨absoluteSpelling 2000 [.palletInstance 50, .parachain 7] (by decide), .fungible 5⟩ := by
  constructor <;> intro t <;> cases t <;> decide

end Reserve
end RuntimeTemplates
