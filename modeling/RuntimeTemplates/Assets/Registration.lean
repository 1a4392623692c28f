import RuntimeTemplates.Assets.Backing
import RuntimeTemplates.Transactors

/-!
# RuntimeTemplates.Assets.Registration

Whether a foreign asset can still be registered after others have created assets. The id of the
asset is derived from its location, and the ids are shared with the assets of signed accounts, so
what counts is who took that id first.

* `inUse_iff_taken`: in a run of creations and registrations, the ids in use are those taken.
* `registration_succeeds_iff`: registration succeeds exactly when nobody took the derived id.
* `System.registry`: the maps of a reachable state, as the asset transactors read them.
-/

namespace RuntimeTemplates
namespace Assets

open Xcm Dispatch

variable {AssetId AccountId : Type}

section Taken

variable {c : Config AssetId AccountId}

/-- A signed `create`, or a registration. -/
def Event.IsCreation (e : Event c) : Prop := e.action.creates ≠ none

instance (e : Event c) : Decidable e.IsCreation := inferInstanceAs (Decidable (_ ≠ _))

def Taken (events : List (Event c)) (id : AssetId) : Prop :=
  ∃ e ∈ events, ∃ who, e.created = some (id, who)

@[simp] theorem taken_nil (id : AssetId) : ¬ Taken ([] : List (Event c)) id := by
  rintro ⟨e, he, -⟩
  cases he

theorem taken_iff {events : List (Event c)} {id : AssetId} :
    Taken events id ↔ ∃ e ∈ events, e.created.map Prod.fst = some id := by
  simp [Taken]

instance [DecidableEq AssetId] (events : List (Event c)) (id : AssetId) :
    Decidable (Taken events id) := decidable_of_iff _ taken_iff.symm

theorem taken_cons {e : Event c} {es : List (Event c)} {id : AssetId} :
    Taken (e :: es) id ↔ (∃ who, e.created = some (id, who)) ∨ Taken es id := by
  simp [Taken]

variable [DecidableEq AssetId] [DecidableEq AccountId]

/-- A creation puts one id in use, its own, when it succeeds. -/
theorem step_inUse {s s' : System AssetId AccountId} {e : Event c} (h : Step c s e s')
    (hc : e.IsCreation) (id : AssetId) :
    s'.storage.asset id ≠ none ↔
      s.storage.asset id ≠ none ∨ ∃ who, e.created = some (id, who) := by
  obtain ⟨a, r⟩ := e
  rcases step_cases h with ⟨hr, hch⟩ | ⟨⟨err, hr⟩, rfl⟩
  · obtain rfl : r = .ok () := hr
    cases a with
    | create who i admin minBalance canReserve =>
      obtain ⟨s', creator'⟩ := s'
      cases hch
      by_cases hi : id = i
      · simp [hi, Event.created, Action.creates]
      · simp [Function.update_of_ne hi, Event.created, Action.creates, Ne.symm hi]
    | register asset m minAmount isSufficient =>
      obtain ⟨s', creator'⟩ := s'
      cases hch
      by_cases hi : id = c.toAssetId asset
      · simp [hi, Event.created, Action.creates]
      · simp [Function.update_of_ne hi, Event.created, Action.creates, Ne.symm hi]
    | startDestroy who i => exact absurd rfl hc
    | finishDestroy who i => exact absurd rfl hc
    | deregister i => exact absurd rfl hc
  · obtain rfl : r = .error err := hr
    simp [Event.created]

theorem inUse_iff_taken {s s' : System AssetId AccountId} {events : List (Event c)}
    (h : Trace (Step c) s events s') (hc : ∀ e ∈ events, e.IsCreation) (id : AssetId) :
    s'.storage.asset id ≠ none ↔ s.storage.asset id ≠ none ∨ Taken events id := by
  induction h with
  | nil s => simp
  | @cons s s₁ s₂ e es hs _ ih =>
    have h₁ := step_inUse hs (hc e (by simp)) id
    have h₂ := ih fun e he => hc e (by simp [he])
    rw [h₂, h₁, taken_cons, or_assoc]

end Taken

/-- A foreign asset can be registered exactly as long as nobody has taken its derived id, by a
signed `create` or by the registration of another location. -/
theorem registration_succeeds_iff (t : Template) (hash : LocationHash) (manager : t.AccountId)
    {events : List (Event (t.assetsConfig hash manager))} {s : System t.AssetId t.AccountId}
    (h : Trace (Step (t.assetsConfig hash manager)) System.genesis events s)
    (hc : ∀ e ∈ events, e.IsCreation) (asset : AssetType) (m : AssetRegistrarMetadata)
    (minBalance : Nat) (isSufficient : Bool) (hmin : minBalance ≠ 0)
    (hname : m.name.length ≤ stringLimit) (hsymbol : m.symbol.length ≤ stringLimit) :
    ((createForeignAsset (t.assetsConfig hash manager)
        ((t.assetsConfig hash manager).toAssetId asset) minBalance m isSufficient).exec
          s.storage).1 = .ok () ↔
      ¬ Taken events ((t.assetsConfig hash manager).toAssetId asset) := by
  have huse := inUse_iff_taken h hc ((t.assetsConfig hash manager).toAssetId asset)
  rw [createForeignAsset_succeeds_iff]
  constructor
  · rintro ⟨hfree, -⟩ htaken
    exact huse.mpr (.inr htaken) hfree
  · intro htaken
    refine ⟨?_, hmin, hname, hsymbol⟩
    by_contra hne
    rcases huse.mp hne with hgen | htk
    · exact hgen rfl
    · exact htaken htk

/-- The relay chain's token has an id of its own. -/
def sampleHash : LocationHash := fun l =>
  if l = .parent then .replicate 32 1 else .replicate 32 2

/-- Two accounts and root take other ids. One account asks for the id of the relay chain's token,
and cannot pay the deposit. -/
def sampleOthers : List (Action (Template.generic.assetsConfig sampleHash 9#256)) :=
  [.create ⟨7#256, by decide⟩ 5#32 7#256 1 true,
    .register (.xcm (.sibling 2001)) ⟨[85], [85], 6, false⟩ 1 false,
    .create ⟨8#256, by decide⟩ 0x01010101#32 8#256 1 false,
    .create ⟨8#256, by decide⟩ 6#32 8#256 1 true]

theorem registration_succeeds_after_others :
    Taken (dispatchAll System.genesis sampleOthers).1 5#32 ∧
      Taken (dispatchAll System.genesis sampleOthers).1
        ((Template.generic.assetsConfig sampleHash 9#256).toAssetId (.xcm (.sibling 2001))) ∧
      ((createForeignAsset (Template.generic.assetsConfig sampleHash 9#256)
        ((Template.generic.assetsConfig sampleHash 9#256).toAssetId (.xcm .parent)) 1
          ⟨[68], [68], 10, false⟩ true).exec
            (dispatchAll System.genesis sampleOthers).2.storage).1 = .ok () :=
  ⟨by decide, by decide,
    (registration_succeeds_iff .generic sampleHash 9#256
      (trace_dispatchAll System.genesis sampleOthers) (by decide) (.xcm .parent)
      ⟨[68], [68], 10, false⟩ 1 true (by decide) (by decide) (by decide)).mpr (by decide)⟩

/-- An account signs for the id that the relay chain's token derives to. -/
def sampleSquat : Action sampleConfig :=
  .create sampleSigner 0x01010101#32 7#256 1 true

theorem registration_blocked :
    Trace (Step _) System.genesis [(dispatch System.genesis sampleSquat).1]
        (dispatch System.genesis sampleSquat).2 ∧
      (dispatch System.genesis sampleSquat).1.IsCreation ∧
      (dispatch System.genesis sampleSquat).2.storage.assetTypeId (.xcm .parent) = none ∧
      ((createForeignAsset sampleConfig (sampleConfig.toAssetId (.xcm .parent)) 1
          ⟨[68], [68], 10, false⟩ true).exec
            (dispatch System.genesis sampleSquat).2.storage).1 = .error .inUse :=
  ⟨.single (step_dispatch System.genesis sampleSquat), by decide, by decide, by decide⟩

/-! ## The registry of a reachable state -/

section Registry

variable [DecidableEq AssetId] [DecidableEq AccountId] {c : Config AssetId AccountId}

/-- The maps of the asset manager, when every registered location is foreign. -/
def System.registry {s : System AssetId AccountId} (hs : Sound c s)
    (hforeign : ∀ l id, s.storage.assetTypeId (.xcm l) = some id → 1 ≤ l.parents) :
    AssetRegistry AssetId where
  locationToId l := s.storage.assetTypeId (.xcm l)
  idToLocation id := (s.storage.assetIdType id).bind AssetType.toLocation
  inverse l id := by
    rw [hs.inverse]
    constructor
    · intro h; rw [h]; rfl
    · intro h
      obtain ⟨⟨l'⟩, hl, hl'⟩ := Option.bind_eq_some_iff.mp h
      obtain rfl := Option.some.inj hl'
      exact hl
  foreign := hforeign

end Registry

/-- In the EVM template a registered foreign location is handled: by the entry of `Assets` it is
mapped to, which is a live asset of the registrar. -/
theorem registered_asset_handled {hash : LocationHash} {manager : Template.AccountId .evm}
    {events : List (Event (Template.evm.assetsConfig hash manager))}
    {s : System (Template.AssetId .evm) (Template.AccountId .evm)}
    (h : Trace (Step (Template.evm.assetsConfig hash manager)) System.genesis events s)
    (hforeign : ∀ l id, s.storage.assetTypeId (.xcm l) = some id → 1 ≤ l.parents)
    (info : PalletInfo) {id : Evm.AssetId} {l : Location} {n : Nat}
    (hmap : s.storage.assetIdType id = some (.xcm l)) :
    Evm.assetTransactors info (fun l => s.storage.assetTypeId (.xcm l)) (.fungible l n) =
        some (.assets id) ∧
      ∃ d, Backed (Template.evm.assetsConfig hash manager) s id d := by
  have hs := reachable_sound h
  have hc : Evm.currencyIdToLocation info (System.registry hs hforeign).idToLocation
      (.foreignAsset id) = some l := by
    simp [Evm.currencyIdToLocation, System.registry, hmap, AssetType.toLocation]
  exact ⟨(Evm.currency_routed _ hc).mpr fun k hk => (nomatch hk), hs.backed id _ hmap⟩

end Assets
end RuntimeTemplates
