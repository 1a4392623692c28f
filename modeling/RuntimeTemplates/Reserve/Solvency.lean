import RuntimeTemplates.Lib.Custody
import RuntimeTemplates.Reserve.Trust

/-!
# RuntimeTemplates.Reserve.Solvency

Runs of reserve-backed transfers. A deposit mints an asset against backing at the origin that the
trust rules accept; an outgoing transfer burns it and releases backing at the reserve that
`ReserveProviders` names. `Vault` keeps, for each asset, what is held here and what was deposited
and released at each reserve.

* `step`: one transfer, computed with the runtime's own `reserves` and `reserveProviders`.
* `policy`: the same rules as a custody policy. `step_custody` and `custody_step` show that the
  steps of the two agree, so the runs do.
* `FromItsReserve`: the deposits under which the vault stays solvent. The trust rules accept more:
  the relay token from the relay chain, bridged assets from their own consensus, and any asset two
  parents up from Asset Hub. `vault_solvent` and its second part show that these are all.
-/

namespace RuntimeTemplates
namespace Reserve

open Xcm

abbrev Vault := Custody.Book Location Location

inductive Transfer where
  | deposit (asset : Asset) (origin : Location)
  | out (asset : Asset)

/-- One transfer; `none` when the rules refuse it or the vault does not hold the amount. -/
def step (c : ReserveConfig) (v : Vault) : Transfer → Option Vault
  | .deposit asset origin =>
    match asset.fungibility with
    | .fungible amount =>
      if origin ≠ .here ∧ reserves c asset origin = true then
        some (v.deposit asset.id origin amount)
      else none
    | .nonFungible _ => none
  | .out asset =>
    match asset.fungibility, reserveProviders c asset with
    | .fungible amount, some r =>
      if r ≠ .here ∧ amount ≤ v.held asset.id then some (v.redeem asset.id r amount) else none
    | _, _ => none

def Transfers (c : ReserveConfig) (v : Vault) (tr : Transfer) (v' : Vault) : Prop :=
  step c v tr = some v'

/-- A run of transfers from an empty vault. -/
def Run (c : ReserveConfig) (ts : List Transfer) (v : Vault) : Prop :=
  Trace (Transfers c) Custody.Book.empty ts v

section Policy

variable (t : Template) (selfId : UInt32)

/-! ## The rules as a custody policy -/

def policy (c : ReserveConfig) : Custody.Policy Location Location where
  trusts id o := o ≠ .here ∧ reserves c (.fungible id 0) o = true
  releases id := (reserveProviders c (.fungible id 0)).filter (· ≠ .here)

/-- Which origins are trusted for a fungible asset does not depend on its amount. -/
theorem reserves_amount (id o : Location) (m n : Nat) :
    reserves (t.reserveConfig selfId) (.fungible id m) o =
      reserves (t.reserveConfig selfId) (.fungible id n) o := by
  rw [Bool.eq_iff_iff, reserves_iff, reserves_iff]
  rfl

theorem reserveProviders_amount (id : Location) (m n : Nat) :
    reserveProviders (t.reserveConfig selfId) (.fungible id m) =
      reserveProviders (t.reserveConfig selfId) (.fungible id n) := by
  rw [reserveProviders_eq, reserveProviders_eq]
  rfl

theorem policy_trusts (id o : Location) (n : Nat) :
    (policy (t.reserveConfig selfId)).trusts id o ↔
      o ≠ .here ∧ reserves (t.reserveConfig selfId) (.fungible id n) o = true := by
  rw [reserves_amount t selfId id o n 0]
  rfl

theorem policy_releases (id r : Location) (n : Nat) :
    (policy (t.reserveConfig selfId)).releases id = some r ↔
      r ≠ .here ∧ reserveProviders (t.reserveConfig selfId) (.fungible id n) = some r := by
  rw [reserveProviders_amount t selfId id n 0]
  simp [policy, Option.filter_eq_some_iff, and_comm]

def toMove : Transfer → Custody.Move Location Location
  | .deposit asset origin => .deposit asset.id origin (amount asset)
  | .out asset => .redeem asset.id (amount asset)
where
  amount (asset : Asset) : Nat :=
    match asset.fungibility with
    | .fungible n => n
    | .nonFungible _ => 0

def ofMove : Custody.Move Location Location → Transfer
  | .deposit id origin n => .deposit (.fungible id n) origin
  | .redeem id n => .out (.fungible id n)

/-- Every transfer of the runtime is a step of its custody policy. -/
theorem step_custody {v v' : Vault} {tr : Transfer}
    (h : step (t.reserveConfig selfId) v tr = some v') :
    Custody.Step (policy (t.reserveConfig selfId)) v (toMove tr) v' := by
  cases tr with
  | deposit asset origin =>
    obtain ⟨id, fung⟩ := asset
    cases fung with
    | fungible n =>
      simp only [step] at h
      split at h
      · rename_i hc; cases h
        exact .deposit ((policy_trusts t selfId id origin n).mpr hc)
      · cases h
    | nonFungible i => cases h
  | out asset =>
    obtain ⟨id, fung⟩ := asset
    cases fung with
    | fungible n =>
      simp only [step] at h
      split at h
      · rename_i m r hm hr
        cases hm
        split at h
        · rename_i hc; cases h
          exact .redeem ((policy_releases t selfId id r n).mpr ⟨hc.1, hr⟩) hc.2
        · cases h
      · cases h
    | nonFungible i => cases h

/-- Every step of the custody policy is a transfer the runtime makes. -/
theorem custody_step {v v' : Vault} {m : Custody.Move Location Location}
    (h : Custody.Step (policy (t.reserveConfig selfId)) v m v') :
    step (t.reserveConfig selfId) v (ofMove m) = some v' := by
  cases h with
  | @deposit a o n ht =>
    have hc := (policy_trusts t selfId a o n).mp ht
    simp only [ofMove, step, Asset.fungible]
    exact if_pos hc
  | @redeem a r n hr hn =>
    obtain ⟨hne, hp⟩ := (policy_releases t selfId a r n).mp hr
    simp only [Asset.fungible] at hp
    simp only [ofMove, step, Asset.fungible, hp]
    exact if_pos ⟨hne, hn⟩

/-! ## The deposits that keep the vault solvent -/

/-- A deposit that comes from where the asset is released: the relay token and bridged assets from
Asset Hub, and other assets two parents up from elsewhere. -/
def FromItsReserve : Transfer → Prop
  | .deposit asset origin =>
    (HeldOnAssetHub asset.id → origin = .sibling 1000) ∧
      (¬ HeldOnAssetHub asset.id → asset.id.parents = 2 → origin ≠ .sibling 1000)
  | .out _ => True

theorem releases_assetHub {id : Location} (h : HeldOnAssetHub id) :
    (policy (t.reserveConfig selfId)).releases id = some (.sibling 1000) :=
  (policy_releases t selfId id _ 0).mpr
    ⟨Location.sibling_ne_here 1000, reserveProviders_assetHub selfId t h⟩

theorem releases_native {id r : Location} (h : ¬ HeldOnAssetHub id) :
    (policy (t.reserveConfig selfId)).releases id = some r ↔
      r ≠ .here ∧ nativeReserve selfId id = r := by
  rw [policy_releases t selfId id r 0, reserveProviders_native selfId t h, Option.some.injEq]
  rfl

/-- Among trusted deposits, `FromItsReserve` singles out those from the releasing reserve. -/
theorem releases_iff_fromItsReserve {l o : Location} {n : Nat}
    (ht : (policy (t.reserveConfig selfId)).trusts l o) :
    (∀ r, (policy (t.reserveConfig selfId)).releases l = some r → r = o) ↔
      FromItsReserve (.deposit (.fungible l n) o) := by
  by_cases h : HeldOnAssetHub l
  · simp only [FromItsReserve, releases_assetHub t selfId h, Asset.fungible_id, h,
      Option.some.injEq, forall_eq', true_implies, not_true_eq_false, false_implies, and_true]
    exact eq_comm
  · simp only [FromItsReserve, releases_native t selfId h, Asset.fungible_id, h,
      false_implies, not_false_eq_true, true_implies, true_and]
    obtain ⟨hne, hres⟩ := (policy_trusts t selfId l o n).mp ht
    constructor
    · -- two parents up the reserve is the chain part, which is neither `here` nor Asset Hub
      rintro hh hp rfl
      have hup : 1 < l.parents := by rw [hp]; decide
      have hnh : nativeReserve selfId l ≠ .here := by
        rw [nativeReserve_remote selfId hup]
        intro he
        have := congrArg Location.parents he
        rw [Location.chainLocation_parents, hp] at this
        exact absurd this (by decide)
      exact nativeReserve_ne_assetHub selfId hup (hh _ ⟨hnh, rfl⟩)
    · rintro hp r ⟨_, rfl⟩
      rcases (reserves_iff selfId t _ o).mp hres with ⟨ho, h2, _⟩ | ⟨_, hid, _⟩ | hn
      · exact absurd ho (hp h2)
      · exact absurd (Or.inl hid) h
      · exact hn

theorem homed_of_fromItsReserve {tr : Transfer} (h : FromItsReserve tr) :
    Custody.Homed (policy (t.reserveConfig selfId)) (toMove tr) := by
  cases tr with
  | deposit asset origin =>
    intro ht
    exact (releases_iff_fromItsReserve t selfId (n := 0) ht).mpr h
  | out asset => trivial

/-- In a run whose deposits all come from the reserve of the asset, no reserve releases more than
was deposited there; and every other trusted deposit can be drawn from a reserve that holds
nothing. -/
theorem vault_solvent :
    (∀ (ts : List Transfer) (v : Vault), Run (t.reserveConfig selfId) ts v →
      (∀ tr ∈ ts, FromItsReserve tr) → ∀ l r, v.released l r ≤ v.deposited l r) ∧
    ∀ (l o : Location) (n : Nat), 0 < n → o ≠ .here →
      reserves (t.reserveConfig selfId) (.fungible l n) o = true →
      ¬ FromItsReserve (.deposit (.fungible l n) o) →
      ∃ v r, Run (t.reserveConfig selfId) [.deposit (.fungible l n) o, .out (.fungible l n)] v ∧
        v.deposited l r < v.released l r := by
  constructor
  · intro ts v hrun hts
    have hcustody := hrun.relabel (fun _ _ _ hs => step_custody t selfId hs)
    refine Custody.solvent_of_homed hcustody ?_
    intro m hm
    obtain ⟨tr, htr, rfl⟩ := List.mem_map.mp hm
    exact homed_of_fromItsReserve t selfId (hts tr htr)
  · intro l o n hn hne hres hf
    have ht := (policy_trusts t selfId l o n).mpr ⟨hne, hres⟩
    have hunhomed : ¬ Custody.Homed (policy (t.reserveConfig selfId)) (.deposit l o n) :=
      fun hh => hf ((releases_iff_fromItsReserve t selfId ht).mp (hh ht))
    obtain ⟨v, r, hv, hd⟩ := Custody.overdrawn_of_unhomed hunhomed hn
    have hsim : ∀ v m v', Custody.Step (policy (t.reserveConfig selfId)) v m v' →
        Transfers (t.reserveConfig selfId) v (ofMove m) v' :=
      fun _ _ _ hs => custody_step t selfId hs
    exact ⟨v, r, hv.relabel hsim, hd⟩

end Policy

/-! ## The relay token -/

def dot (amount : Nat) : Asset := .fungible .parent amount

theorem step_deposit {c : ReserveConfig} (v : Vault) {l o : Location} {n : Nat} (hne : o ≠ .here)
    (h : reserves c (.fungible l n) o = true) :
    step c v (.deposit (.fungible l n) o) = some (v.deposit l o n) :=
  if_pos ⟨hne, h⟩

theorem step_out {c : ReserveConfig} {v : Vault} {l r : Location} {n : Nat} (hne : r ≠ .here)
    (h : reserveProviders c (.fungible l n) = some r) (hn : n ≤ v.held l) :
    step c v (.out (.fungible l n)) = some (v.redeem l r n) := by
  simp only [Asset.fungible] at h
  simp only [step, Asset.fungible, h]
  exact if_pos ⟨hne, hn⟩

/-- Five units deposited from Asset Hub, three sent back. -/
theorem vault_solvent_assetHub :
    ∃ v, Run (Template.evm.reserveConfig 2000)
        [.deposit (dot 5) (.sibling 1000), .out (dot 3)] v ∧
      v.released .parent (.sibling 1000) ≤ v.deposited .parent (.sibling 1000) := by
  have hin : step (Template.evm.reserveConfig 2000) Custody.Book.empty
      (.deposit (dot 5) (.sibling 1000)) =
        some (Custody.Book.empty.deposit .parent (.sibling 1000) 5) :=
    step_deposit _ (Location.sibling_ne_here 1000) (by decide)
  have hout : step (Template.evm.reserveConfig 2000)
      (Custody.Book.empty.deposit .parent (.sibling 1000) 5) (.out (dot 3)) =
        some ((Custody.Book.empty.deposit .parent (.sibling 1000) 5).redeem .parent
          (.sibling 1000) 3) :=
    step_out (Location.sibling_ne_here 1000) (by decide) (by decide)
  have hrun : Run (Template.evm.reserveConfig 2000)
      [.deposit (dot 5) (.sibling 1000), .out (dot 3)] _ := .cons hin (.single hout)
  refine ⟨_, hrun, (vault_solvent .evm 2000).1 _ _ hrun ?_ _ _⟩
  intro tr htr
  simp only [List.mem_cons, List.not_mem_nil, or_false] at htr
  rcases htr with rfl | rfl
  · exact ⟨fun _ => rfl, fun h => absurd (.inl rfl) h⟩
  · trivial

/-- One unit deposited from the relay chain and sent out: Asset Hub, where nothing was deposited,
releases it. -/
theorem relay_deposit_overdraws :
    (∃ v, Run (Template.evm.reserveConfig 2000) [.deposit (dot 1) .parent, .out (dot 1)] v ∧
      v.deposited .parent (.sibling 1000) = 0 ∧ v.released .parent (.sibling 1000) = 1) ∧
    ∃ v, Run (Template.generic.reserveConfig 2000) [.deposit (dot 1) .parent, .out (dot 1)] v ∧
      v.deposited .parent (.sibling 1000) = 0 ∧ v.released .parent (.sibling 1000) = 1 := by
  have hrun : ∀ t : Template, ∃ v,
      Run (t.reserveConfig 2000) [.deposit (dot 1) .parent, .out (dot 1)] v ∧
        v.deposited .parent (.sibling 1000) = 0 ∧ v.released .parent (.sibling 1000) = 1 := by
    intro t
    have hin : step (t.reserveConfig 2000) Custody.Book.empty (.deposit (dot 1) .parent) =
        some (Custody.Book.empty.deposit .parent .parent 1) :=
      step_deposit _ (by decide) (by cases t <;> decide)
    have hout : step (t.reserveConfig 2000) (Custody.Book.empty.deposit .parent .parent 1)
        (.out (dot 1)) =
          some ((Custody.Book.empty.deposit .parent .parent 1).redeem .parent
            (.sibling 1000) 1) :=
      step_out (Location.sibling_ne_here 1000) (by cases t <;> decide) (by decide)
    exact ⟨_, .cons hin (.single hout), by decide, by decide⟩
  exact ⟨hrun .evm, hrun .generic⟩

end Reserve
end RuntimeTemplates
