import RuntimeTemplates.Assets.Registrar

/-!
# RuntimeTemplates.Assets.Creation

`create_foreign_asset` as one step: two calls of the assets pallet, of which the second can fail
after the first has written.

* `CreatedForeignAsset`: all that a successful creation changes.
* `createForeignAsset_atomic`: it does that, or fails and changes nothing, and when it fails.
-/

namespace RuntimeTemplates
namespace Assets

open Xcm Dispatch

variable {AssetId AccountId : Type} [DecidableEq AssetId]

/-- The storage differs only in that the unused `id` now has a live asset of `owner`, with these
parameters and this metadata. -/
structure CreatedForeignAsset (owner : AccountId) (s : Storage AssetId AccountId) (id : AssetId)
    (minBalance : Nat) (m : AssetRegistrarMetadata) (isSufficient : Bool)
    (s' : Storage AssetId AccountId) : Prop where
  fresh : s.asset id = none
  asset : ∃ d : AssetDetails AccountId, s'.asset = Function.update s.asset id (some d) ∧
    d.status = .live ∧ d.owner = owner ∧ d.minBalance = minBalance ∧
    d.isSufficient = isSufficient ∧ d.supply = 0 ∧ d.accounts = 0 ∧ d.approvals = 0
  metadata : ∃ d : AssetMetadata, s'.metadata = Function.update s.metadata id (some d) ∧
    d.name.val = m.name ∧ d.symbol.val = m.symbol ∧ d.decimals = m.decimals ∧
    d.isFrozen = m.isFrozen
  assetIdType : s'.assetIdType = s.assetIdType
  assetTypeId : s'.assetTypeId = s.assetTypeId

variable {c : Config AssetId AccountId} {s s' : Storage AssetId AccountId} {id : AssetId}
  {minBalance : Nat} {m : AssetRegistrarMetadata} {isSufficient : Bool}

theorem createForeignAsset_created
    (h : (createForeignAsset c id minBalance m isSufficient).exec s = (.ok (), s')) :
    CreatedForeignAsset c.assetManagerAccountId s id minBalance m isSufficient s' := by
  obtain ⟨hfree, name, symbol, hname, hsymbol, rfl⟩ := createForeignAsset_ok h
  exact {
    fresh := hfree
    asset := ⟨_, rfl, rfl, rfl, rfl, rfl, rfl, rfl, rfl⟩
    metadata := ⟨_, rfl, hname, hsymbol, rfl, rfl⟩
    assetIdType := rfl
    assetTypeId := rfl }

theorem createForeignAsset_fails_iff :
    (∃ e, ((createForeignAsset c id minBalance m isSufficient).exec s).1 = .error e) ↔
      s.asset id ≠ none ∨ minBalance = 0 ∨ stringLimit < m.name.length ∨
        stringLimit < m.symbol.length := by
  have hok : ((createForeignAsset c id minBalance m isSufficient).exec s).1 = .ok () ↔ _ :=
    createForeignAsset_succeeds_iff
  cases hr : ((createForeignAsset c id minBalance m isSufficient).exec s).1 with
  | ok u =>
    obtain ⟨hfree, hmin, hname, hsymbol⟩ := hok.mp hr
    refine iff_of_false (by simp) ?_
    rintro (hid | hz | hn | hs)
    · exact hid hfree
    · exact hmin hz
    · exact absurd hname (Nat.not_le.mpr hn)
    · exact absurd hsymbol (Nat.not_le.mpr hs)
  | error e =>
    refine iff_of_true ⟨e, rfl⟩ ?_
    by_contra hall
    simp only [not_or, not_not, Nat.not_lt] at hall
    obtain ⟨hid, hmin, hname, hsymbol⟩ := hall
    rw [hok.mpr ⟨hid, hmin, hname, hsymbol⟩] at hr
    cases hr

/-- A foreign asset is created as a whole, or the call fails and leaves the storage as it was. -/
theorem createForeignAsset_atomic (t : Template) (hash : LocationHash) (manager : t.AccountId)
    (s : Storage t.AssetId t.AccountId) (id : t.AssetId) (minBalance : Nat)
    (m : AssetRegistrarMetadata) (isSufficient : Bool) :
    ((∃ e, (createForeignAsset (t.assetsConfig hash manager) id minBalance m isSufficient).exec s =
          (.error e, s)) ∧
        (s.asset id ≠ none ∨ minBalance = 0 ∨ stringLimit < m.name.length ∨
          stringLimit < m.symbol.length)) ∨
      (∃ s', (createForeignAsset (t.assetsConfig hash manager) id minBalance m isSufficient).exec s =
          (.ok (), s') ∧
        CreatedForeignAsset manager s id minBalance m isSufficient s') ∧
        ¬ (s.asset id ≠ none ∨ minBalance = 0 ∨ stringLimit < m.name.length ∨
          stringLimit < m.symbol.length) := by
  have hmanager : (t.assetsConfig hash manager).assetManagerAccountId = manager := by
    cases t <;> rfl
  have hfails : (∃ e, ((createForeignAsset (t.assetsConfig hash manager) id minBalance m
      isSufficient).exec s).1 = .error e) ↔ _ := createForeignAsset_fails_iff
  cases hx : (createForeignAsset (t.assetsConfig hash manager) id minBalance m isSufficient).exec s
    with
  | mk r s' =>
    rw [hx] at hfails
    cases r with
    | ok u =>
      right
      have hcreated := createForeignAsset_created hx
      rw [hmanager] at hcreated
      exact ⟨⟨s', rfl, hcreated⟩, fun hbad => by simpa using hfails.mpr hbad⟩
    | error e =>
      left
      have hs : s' = s := transactional_unchanged hx
      exact ⟨⟨e, by rw [hs]⟩, hfails.mp ⟨e, rfl⟩⟩

end Assets
end RuntimeTemplates
