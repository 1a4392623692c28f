import RuntimeTemplates.Assets.Registration

/-!
# RuntimeTemplates.Assets.Lifecycle

What becomes of one asset id in a run of the calls that create and destroy assets, and of the route
of the location that was registered under it.

* `Phase`, `Move`, `Phase.next`: the lifecycle of an id.
* `lifecycle_refined`: the calls on an id that succeed in a run are a path through its lifecycle, to
  the phase that the storage has it in.
* `replaced_after_removal`: a registered id is given away again only after root has removed it and
  the asset was destroyed.
* `registered_stays_routed`: until root removes it, the EVM template routes the location to the id.
-/

namespace RuntimeTemplates
namespace Assets

open Xcm Dispatch

/-! ## The lifecycle of an id -/

inductive Phase where
  | free
  /-- of an account that signed for it -/
  | signed
  /-- of the registrar, with a location -/
  | registered
  | destroying
  deriving DecidableEq

inductive Move where
  | create
  | register
  | startDestroy
  | deregister
  | finishDestroy
  deriving DecidableEq

def Phase.next : Phase → Move → Option Phase
  | .free, .create => some .signed
  | .free, .register => some .registered
  | .signed, .startDestroy => some .destroying
  | .registered, .deregister => some .destroying
  | .destroying, .startDestroy => some .destroying
  | .destroying, .finishDestroy => some .free
  | _, _ => none

def Phase.Step (p : Phase) (m : Move) (p' : Phase) : Prop := p.next m = some p'

theorem Phase.of_register {p p' : Phase} (h : p.next .register = some p') : p' = .registered := by
  cases p with
  | free =>
    cases h
    rfl
  | _ => cases h

/-- Only a free id is given away. -/
theorem Phase.free_of_next {p p' : Phase} {m : Move} (h : p.next m = some p')
    (hm : m = .create ∨ m = .register) : p = .free := by
  rcases hm with rfl | rfl
  · cases p <;> first | rfl | cases h
  · cases p <;> first | rfl | cases h

/-- An asset that is being destroyed stays so until that is finished. -/
theorem Phase.finishDestroy_mem {p : Phase} {moves : List Move}
    (h : Trace Phase.Step .destroying moves p) (hp : p ≠ .destroying) :
    .finishDestroy ∈ moves := by
  induction moves with
  | nil =>
    cases h
    exact absurd rfl hp
  | cons m moves ih =>
    cases h with
    | @cons _ p₁ _ _ _ hstep hrest =>
      cases m with
      | startDestroy =>
        cases hstep
        exact List.mem_cons_of_mem _ (ih hrest)
      | finishDestroy => exact List.mem_cons_self
      | _ => cases hstep

/-- The way out of a registration. -/
theorem Phase.removed_sublist {moves : List Move} (h : Trace Phase.Step .registered moves .free) :
    [.deregister, .finishDestroy].Sublist moves := by
  cases h with
  | @cons _ p₁ _ m moves hstep hrest =>
    cases m with
    | deregister =>
      cases hstep
      have hmem : .finishDestroy ∈ moves := Phase.finishDestroy_mem hrest (by decide)
      exact (List.singleton_sublist.mpr hmem).cons_cons _
    | _ => cases hstep

/-! ## The calls on an id -/

variable {AssetId AccountId : Type} {c : Config AssetId AccountId}

/-- The id that a call is about. -/
def Action.target : Action c → AssetId
  | .create _ id _ _ _ => id
  | .startDestroy _ id => id
  | .finishDestroy _ id => id
  | .register asset _ _ _ => c.toAssetId asset
  | .deregister id => id

def Action.kind : Action c → Move
  | .create _ _ _ _ _ => .create
  | .startDestroy _ _ => .startDestroy
  | .finishDestroy _ _ => .finishDestroy
  | .register _ _ _ _ => .register
  | .deregister _ => .deregister

/-- What a call does to the asset `id`. One that fails, or is about another id, does nothing. -/
def Event.move [DecidableEq AssetId] (id : AssetId) (e : Event c) : Option Move :=
  match e.result with
  | .ok _ => if e.action.target = id then some e.action.kind else none
  | .error _ => none

def Storage.phase (s : Storage AssetId AccountId) (id : AssetId) : Phase :=
  match s.asset id, s.assetIdType id with
  | none, _ => .free
  | some _, some _ => .registered
  | some d, none => if d.status = .destroying then .destroying else .signed

section Phases

variable {s s' : Storage AssetId AccountId} {id : AssetId}

theorem phase_congr (hasset : s'.asset id = s.asset id)
    (hmap : s'.assetIdType id = s.assetIdType id) : s'.phase id = s.phase id := by
  rw [Storage.phase, Storage.phase, hasset, hmap]

theorem phase_free (h : s.asset id = none) : s.phase id = .free := by
  rw [Storage.phase, h]

theorem phase_registered {d : AssetDetails AccountId} {asset : AssetType}
    (h : s.asset id = some d) (hmap : s.assetIdType id = some asset) :
    s.phase id = .registered := by
  rw [Storage.phase, h, hmap]

theorem phase_unmapped {d : AssetDetails AccountId} (h : s.asset id = some d)
    (hmap : s.assetIdType id = none) :
    s.phase id = if d.status = .destroying then .destroying else .signed := by
  rw [Storage.phase, h, hmap]

theorem phase_destroying {d : AssetDetails AccountId} (h : s.asset id = some d)
    (hmap : s.assetIdType id = none) (hstatus : d.status = .destroying) :
    s.phase id = .destroying := by
  rw [phase_unmapped h hmap, if_pos hstatus]

theorem phase_signed {d : AssetDetails AccountId} (h : s.asset id = some d)
    (hmap : s.assetIdType id = none) (hstatus : d.status ≠ .destroying) :
    s.phase id = .signed := by
  rw [phase_unmapped h hmap, if_neg hstatus]

end Phases

section Steps

variable {s : System AssetId AccountId}

/-- An id is not mapped if nothing behind it is as the registrar left it. -/
theorem Sound.unmapped (hs : Sound c s) {id : AssetId} (h : ∀ d, ¬ Backed c s id d) :
    s.storage.assetIdType id = none := by
  cases hmap : s.storage.assetIdType id with
  | none => rfl
  | some asset =>
    obtain ⟨d, hb⟩ := hs.backed id asset hmap
    exact absurd hb (h d)

variable [DecidableEq AssetId]

theorem change_frame {s s' : Storage AssetId AccountId} {a : Action c} {id : AssetId}
    (h : Change c s a s') (hid : id ≠ a.target) :
    s'.asset id = s.asset id ∧ s'.assetIdType id = s.assetIdType id := by
  cases h with
  | create who i admin minBalance canReserve hfree =>
    simp [Function.update_of_ne (show id ≠ i from hid)]
  | startDestroy who i d hd ho => simp [Function.update_of_ne (show id ≠ i from hid)]
  | finishDestroy who i d hd hstatus => simp [Function.update_of_ne (show id ≠ i from hid)]
  | register asset m minAmount isSufficient name symbol hmap hfree =>
    simp [Function.update_of_ne (show id ≠ c.toAssetId asset from hid)]
  | deregister i d asset hd hmap => simp [Function.update_of_ne (show id ≠ i from hid)]

/-- A call moves its id along the lifecycle. -/
theorem change_phase {s' : Storage AssetId AccountId} {a : Action c} (hs : Sound c s)
    (h : Change c s.storage a s') : (s.storage.phase a.target).next a.kind =
      some (s'.phase a.target) := by
  cases h with
  | create who id admin minBalance canReserve hfree =>
    have hmap : s.storage.assetIdType id = none := hs.unmapped fun d hb => by
      cases hfree.symm.trans hb.asset
    have hnew : (s.storage.insertAsset id (some (.created who.val admin c.assetDeposit minBalance
        false))).phase id = .signed :=
      phase_signed (Function.update_self id _ _) hmap AssetStatus.noConfusion
    rw [Action.target, Action.kind, phase_free hfree, hnew]
    rfl
  | startDestroy who id d hd ho =>
    have hmap : s.storage.assetIdType id = none := hs.unmapped fun d' hb => by
      obtain rfl := Option.some.inj (hd.symm.trans hb.asset)
      exact who.property (ho.symm.trans hb.owner)
    have hnew : (s.storage.insertAsset id (some { d with status := .destroying })).phase id =
        .destroying := phase_destroying (Function.update_self id _ _) hmap rfl
    rw [Action.target, Action.kind, phase_unmapped hd hmap, hnew]
    split
    · rfl
    · rfl
  | finishDestroy who id d hd hstatus =>
    have hmap : s.storage.assetIdType id = none := hs.unmapped fun d' hb => by
      obtain rfl := Option.some.inj (hd.symm.trans hb.asset)
      cases hstatus.symm.trans hb.live
    have hnew : ((s.storage.insertAsset id none).insertMetadata id none).phase id = .free :=
      phase_free (Function.update_self id _ _)
    rw [Action.target, Action.kind, phase_destroying hd hmap hstatus, hnew]
    rfl
  | register asset m minAmount isSufficient name symbol hmap hfree =>
    have hnew : ((created c s.storage (c.toAssetId asset) minAmount name symbol m.decimals
        m.isFrozen isSufficient).insertAssociation asset (c.toAssetId asset)).phase
          (c.toAssetId asset) = .registered :=
      phase_registered (Function.update_self _ _ _) (Function.update_self _ _ _)
    rw [Action.target, Action.kind, phase_free hfree, hnew]
    rfl
  | deregister id d asset hd hmap =>
    have hnew : ((s.storage.insertAsset id
        (some { d with status := .destroying })).removeAssociation asset id).phase id =
          .destroying :=
      phase_destroying (Function.update_self id _ _) (Function.update_self id _ _) rfl
    rw [Action.target, Action.kind, phase_registered hd hmap, hnew]
    rfl

end Steps

/-! ## Runs -/

section Runs

variable [DecidableEq AssetId] [DecidableEq AccountId] {s s' : System AssetId AccountId}
  {e : Event c} {id : AssetId}

/-- A step moves an id along its lifecycle. -/
theorem step_next (hs : Sound c s) (h : Step c s e s') {m : Move} (hm : e.move id = some m) :
    (s.storage.phase id).next m = some (s'.storage.phase id) := by
  obtain ⟨a, r⟩ := e
  cases r with
  | error err => cases hm
  | ok u =>
    rcases step_cases h with ⟨-, hc⟩ | ⟨⟨err, herr⟩, -⟩
    · by_cases hid : a.target = id
      · subst hid
        obtain rfl : a.kind = m := Option.some.inj ((if_pos rfl).symm.trans hm)
        exact change_phase hs hc
      · cases (if_neg hid).symm.trans hm
    · cases herr

/-- A step that does nothing to an id leaves it in its phase. -/
theorem step_stays (h : Step c s e s') (hm : e.move id = none) :
    s'.storage.phase id = s.storage.phase id := by
  obtain ⟨a, r⟩ := e
  rcases step_cases h with ⟨hr, hc⟩ | ⟨-, rfl⟩
  · obtain rfl : r = .ok () := hr
    have hid : id ≠ a.target := by
      rintro rfl
      cases (if_pos rfl).symm.trans hm
    obtain ⟨hasset, hmap⟩ := change_frame hc hid
    exact phase_congr hasset hmap
  · rfl

/-- The storage follows the lifecycle of each id. -/
theorem run_phase {events : List (Event c)} (h : Trace (Step c) s events s') (hs : Sound c s) :
    Trace Phase.Step (s.storage.phase id) (events.filterMap (Event.move id))
      (s'.storage.phase id) := by
  have hmatch : ∀ (s : System AssetId AccountId) (e : Event c) s' p m, e.move id = some m →
      Sound c s ∧ s.storage.phase id = p → Step c s e s' →
        ∃ p', Phase.Step p m p' ∧ Sound c s' ∧ s'.storage.phase id = p' := by
    rintro s e s' p m hm ⟨hs, rfl⟩ hstep
    exact ⟨_, step_next hs hstep hm, hstep.sound hs, rfl⟩
  have hskip : ∀ (s : System AssetId AccountId) (e : Event c) s' p, e.move id = none →
      Sound c s ∧ s.storage.phase id = p → Step c s e s' →
        Sound c s' ∧ s'.storage.phase id = p := by
    rintro s e s' p hm ⟨hs, rfl⟩ hstep
    exact ⟨hstep.sound hs, step_stays hstep hm⟩
  obtain ⟨p', hrun, -, rfl⟩ := h.simulates hmatch hskip ⟨hs, rfl⟩
  exact hrun

end Runs

/-- In every run from genesis, the calls on an id that succeed are a path through its lifecycle, to
the phase that the storage has the id in. -/
theorem lifecycle_refined (t : Template) (hash : LocationHash) (manager : t.AccountId)
    {events : List (Event (t.assetsConfig hash manager))} {s : System t.AssetId t.AccountId}
    (h : Trace (Step (t.assetsConfig hash manager)) System.genesis events s) (id : t.AssetId) :
    Trace Phase.Step .free (events.filterMap (Event.move id)) (s.storage.phase id) :=
  run_phase h sound_genesis

/-- When an id is given away again after a registration, by a `create` or by the registration of
another location with it, root has removed it in between and the asset was destroyed. -/
theorem replaced_after_removal (t : Template) (hash : LocationHash) (manager : t.AccountId)
    {before between after : List (Event (t.assetsConfig hash manager))}
    {e e' : Event (t.assetsConfig hash manager)} {s : System t.AssetId t.AccountId}
    (h : Trace (Step (t.assetsConfig hash manager)) System.genesis
      (before ++ e :: (between ++ e' :: after)) s) (id : t.AssetId)
    (he : e.move id = some .register)
    (he' : e'.move id = some .create ∨ e'.move id = some .register) :
    [.deregister, .finishDestroy].Sublist (between.filterMap (Event.move id)) := by
  obtain ⟨s₁, h₁, h₂⟩ := h.split
  cases h₂ with
  | @cons _ s₂ _ _ _ hreg hrest =>
    obtain ⟨s₃, hbetween, hafter⟩ := hrest.split
    cases hafter with
    | @cons _ s₄ _ _ _ hnew _ =>
      have hs₁ : Sound _ s₁ := reachable_sound h₁
      have hs₂ : Sound _ s₂ := hreg.sound hs₁
      have hs₃ : Sound _ s₃ := hbetween.invariant (fun _ _ _ hs hstep => hstep.sound hs) hs₂
      have hpath : Trace Phase.Step (s₂.storage.phase id) (between.filterMap (Event.move id))
          (s₃.storage.phase id) := run_phase hbetween hs₂
      have hfrom : s₂.storage.phase id = .registered := Phase.of_register (step_next hs₁ hreg he)
      have hto : s₃.storage.phase id = .free := by
        rcases he' with he' | he'
        · exact Phase.free_of_next (step_next hs₃ hnew he') (.inl rfl)
        · exact Phase.free_of_next (step_next hs₃ hnew he') (.inr rfl)
      rw [hfrom, hto] at hpath
      exact Phase.removed_sublist hpath

/-- The relay chain's token is registered and removed, and an account signs for its id. -/
def sampleReplacement : List (Action sampleConfig) :=
  [sampleRegistration, .startDestroy sampleSigner 0x01010101#32, .deregister 0x01010101#32,
    sampleSquat, .finishDestroy sampleSigner 0x01010101#32, sampleSquat]

theorem sample_lifecycle :
    Trace Phase.Step .free [.register, .deregister, .finishDestroy, .create] .signed :=
  lifecycle_refined .generic _ _ (trace_dispatchAll System.genesis sampleReplacement) 0x01010101#32

/-- What is in between are an attempt to destroy the asset, its removal, an early attempt to create
another one, and its destruction. -/
theorem sample_replaced :
    [Move.deregister, .finishDestroy].Sublist
      ((((dispatchAll System.genesis sampleReplacement).1.drop 1).take 4).filterMap
        (Event.move 0x01010101#32)) :=
  @replaced_after_removal .generic _ _ [] _ _ _ _ _
    (trace_dispatchAll System.genesis sampleReplacement) 0x01010101#32 (by decide)
    (.inl (by decide))

/-! ## Routes -/

section Routes

theorem change_mapping [DecidableEq AssetId] {s s' : Storage AssetId AccountId} {a : Action c}
    (h : Change c s a s') {id : AssetId} {asset : AssetType}
    (hmap : s.assetIdType id = some asset) (hkept : a.target = id → a.kind ≠ .deregister) :
    s'.assetIdType id = some asset := by
  by_cases hid : a.target = id
  · cases h with
    | create who i admin minBalance canReserve hfree => exact hmap
    | startDestroy who i d hd ho => exact hmap
    | finishDestroy who i d hd hstatus => exact hmap
    | register asset' m minAmount isSufficient name symbol hfree hasset =>
      obtain rfl : c.toAssetId asset' = id := hid
      cases hfree.symm.trans hmap
    | deregister i d asset' hd hmap' => exact absurd rfl (hkept hid)
  · exact (change_frame h (Ne.symm hid)).2.trans hmap

theorem run_mapping [DecidableEq AssetId] [DecidableEq AccountId] {s s' : System AssetId AccountId}
    {events : List (Event c)} (h : Trace (Step c) s events s') {id : AssetId} {asset : AssetType}
    (hmap : s.storage.assetIdType id = some asset)
    (hkept : ∀ e ∈ events, e.move id ≠ some .deregister) :
    s'.storage.assetIdType id = some asset := by
  have hstep : ∀ (s : System AssetId AccountId) (e : Event c) s', e.move id ≠ some .deregister →
      s.storage.assetIdType id = some asset → Step c s e s' →
        s'.storage.assetIdType id = some asset := by
    rintro s ⟨a, r⟩ s' he hmap hstep
    rcases step_cases hstep with ⟨hr, hc⟩ | ⟨-, rfl⟩
    · obtain rfl : r = .ok () := hr
      refine change_mapping hc hmap ?_
      intro hid hkind
      exact he ((if_pos hid).trans (congrArg some hkind))
    · exact hmap
  exact h.invariant_of hstep hkept hmap

variable {hash : LocationHash} {manager : Template.AccountId .evm}
  {s s' : System (Template.AssetId .evm) (Template.AccountId .evm)}

/-- The location of the balances pallet goes to `Balances`, any other one by the asset manager. -/
theorem routed_iff (hs : Sound (Template.evm.assetsConfig hash manager) s) (info : PalletInfo)
    (l : Location) (n : Nat) (id : Evm.AssetId) :
    Evm.assetTransactors info (fun l => s.storage.assetTypeId (.xcm l)) (.fungible l n) =
        some (.assets id) ↔
      l ≠ Evm.balancesPalletLocation info ∧ s.storage.assetIdType id = some (.xcm l) := by
  rw [Evm.assetTransactors_fungible, ← hs.inverse]
  by_cases hl : l = Evm.balancesPalletLocation info
  · simp [hl]
  · simp [hl]

/-- While root does not remove a registration, its location, and no other one, is routed to its id,
the id is converted back to the location, and a live asset of the registrar is behind it. -/
theorem registered_stays_routed
    {past more : List (Event (Template.evm.assetsConfig hash manager))}
    (h : Trace (Step (Template.evm.assetsConfig hash manager)) System.genesis past s)
    (h' : Trace (Step (Template.evm.assetsConfig hash manager)) s more s') (info : PalletInfo)
    {l : Location} {n : Nat} {id : Evm.AssetId}
    (hroute : Evm.assetTransactors info (fun l => s.storage.assetTypeId (.xcm l)) (.fungible l n) =
      some (.assets id))
    (hkept : ∀ e ∈ more, e.move id ≠ some .deregister) :
    (∀ l' n', Evm.assetTransactors info (fun l => s'.storage.assetTypeId (.xcm l))
        (.fungible l' n') = some (.assets id) ↔ l' = l) ∧
      Evm.currencyIdToLocation info (fun i => (s'.storage.assetIdType i).bind AssetType.toLocation)
        (.foreignAsset id) = some l ∧
      ∃ d, Backed (Template.evm.assetsConfig hash manager) s' id d := by
  have hs : Sound (Template.evm.assetsConfig hash manager) s := reachable_sound h
  have hs' : Sound (Template.evm.assetsConfig hash manager) s' :=
    h'.invariant (fun _ _ _ hs hstep => hstep.sound hs) hs
  obtain ⟨hl, hmap⟩ := (routed_iff hs info l n id).mp hroute
  have hmap' : s'.storage.assetIdType id = some (.xcm l) := run_mapping h' hmap hkept
  refine ⟨?_, ?_, hs'.backed id _ hmap'⟩
  · intro l' n'
    rw [routed_iff hs', hmap']
    constructor
    · rintro ⟨-, heq⟩
      cases heq
      rfl
    · rintro rfl
      exact ⟨hl, rfl⟩
  · rw [Evm.currencyIdToLocation, hmap']
    rfl

/-- The relay chain's token in the EVM template. -/
def relayId : Evm.AssetId := 0x01010101010101010101010101010101

def sampleRegistered :
    List (Action (Template.evm.assetsConfig (fun _ => .replicate 32 1) 9#160)) :=
  [.register (.xcm .parent) ⟨[68], [68], 10, false⟩ 1 true]

/-- An account tries to destroy the asset, and one to register another location with its id. -/
def sampleAttempts :
    List (Action (Template.evm.assetsConfig (fun _ => .replicate 32 1) 9#160)) :=
  [.startDestroy ⟨7#160, by decide⟩ relayId,
    .register (.xcm (.sibling 2001)) ⟨[68], [68], 10, false⟩ 1 true]

def sampleKept : System Evm.AssetId Evm.AccountId :=
  (dispatchAll (dispatchAll System.genesis sampleRegistered).2 sampleAttempts).2

theorem sample_stays_routed :
    (∀ l' n', Evm.assetTransactors samplePallets
        (fun l => sampleKept.storage.assetTypeId (.xcm l)) (.fungible l' n') =
          some (.assets relayId) ↔ l' = .parent) ∧
      Evm.currencyIdToLocation samplePallets
          (fun i => (sampleKept.storage.assetIdType i).bind AssetType.toLocation)
          (.foreignAsset relayId) = some .parent ∧
        ∃ d, Backed (Template.evm.assetsConfig (fun _ => .replicate 32 1) 9#160) sampleKept
          relayId d :=
  registered_stays_routed (trace_dispatchAll System.genesis sampleRegistered)
    (trace_dispatchAll (dispatchAll System.genesis sampleRegistered).2 sampleAttempts)
    samplePallets (n := 5) (by decide) (by decide)

end Routes

end Assets
end RuntimeTemplates
